import ModelCatalog.Proofs.Web.Parameters
import ModelCatalog.Proofs.Catalog.Exclusion

namespace ModelCatalog
open Json Web Address

namespace Connection

def azureVersion (c : Connection) : String := (c.apiVersion.filter (· ≠ "")).getD defaultAzureVersion

-- The addresses that are asked of a connection, each with what it adds to the path of the base, and with the version
-- that it names.
inductive Asked (c : Connection) : String → String → Option String → Prop where
  | models (plain : c.azure = false) : Asked c c.modelsUrl "/models" none
  | deployments (azure : c.azure = true) : Asked c c.modelsUrl "/openai/models" (some c.azureVersion)
  | version : Asked c c.versionUrl "/api/version" none
  | tags : Asked c c.tagsUrl "/api/tags" none

section
variable {c : Connection} {url suffix : String} {version : Option String}

theorem modelsUrl_asked (c : Connection) : ∃ suffix version, Asked c c.modelsUrl suffix version := by
  cases azure : c.azure with
  | false => exact ⟨_,_,.models azure⟩
  | true => exact ⟨_,_,.deployments azure⟩

theorem verifyUrl_asked (c : Connection) : ∃ suffix version, Asked c c.verifyUrl suffix version := by
  unfold verifyUrl
  cases c.kind with
  | openAI => exact c.modelsUrl_asked
  | ollama => exact ⟨_,_,.version⟩

theorem listUrl_asked (c : Connection) : ∃ suffix version, Asked c c.listUrl suffix version := by
  unfold listUrl
  cases c.kind with
  | openAI => exact c.modelsUrl_asked
  | ollama => exact ⟨_,_,.tags⟩

theorem validateBaseUrl_ok {text : String} {done : Unit} (valid : validateBaseUrl text = .ok done) :
    ∃ a, parse text = .ok a := by
  unfold validateBaseUrl at valid
  split at valid
  · cases valid
  · split at valid
    · next a parsed => exact ⟨a,parsed⟩
    · cases valid

theorem ofForm_based {id : ConnectionId} {form : ConnectionForm} {now : Timestamp} (made : ofForm id form now = .ok c) :
    ∃ a, parse c.baseUrl = .ok a := by
  unfold ofForm at made
  cases given : form.kind with
  | none =>
    rw [given] at made
    cases made
  | some kind =>
    rw [given] at made
    obtain ⟨own,-,made⟩ := bind_ok.mp made
    obtain ⟨done,valid,made⟩ := bind_ok.mp made
    cases made
    exact validateBaseUrl_ok valid

theorem applyPatch_based {c' : Connection} {patch : ConnectionPatch} {now : Timestamp}
    (based : ∃ a, parse c.baseUrl = .ok a) (made : c.applyPatch patch now = .ok c') : ∃ a, parse c'.baseUrl = .ok a := by
  unfold applyPatch at made
  cases given : patch.baseUrl with
  | none =>
    rw [given] at made
    cases made
    exact based
  | some baseUrl =>
    rw [given] at made
    obtain ⟨done,valid,made⟩ := bind_ok.mp made
    cases made
    exact validateBaseUrl_ok valid

-- What an endpoint adds to a path: plain names behind slashes.
structure Endpoint (suffix : String) (names : List Char) : Prop where
  behind : suffix.toList = '/' :: names
  unasked : '?' ∉ names
  whole : '#' ∉ names
  visible : ∀ c ∈ names, blank c = false
  named : ∀ part ∈ pieces SchemeKind.special.isSlash names, Names part
  written : pathChars (pieces SchemeKind.special.isSlash names) = '/' :: names

def versionName : List Char := "api-version".toList

def asking : Option (List Char) → List Char
  | none => []
  | some version => '?' :: (versionName ++ '=' :: version)

theorem Asked.endpoint (asked : Asked c url suffix version) : ∃ names, Endpoint suffix names ∧
    url = String.ofList (c.base.toList ++ '/' :: (names ++ asking (version.map String.toList))) := by
  have listed {front behind : String} :
      c.base ++ (front ++ behind) = String.ofList (c.base.toList ++ (front ++ behind).toList) := by
    rw [String.ofList_append,String.ofList_toList,String.ofList_toList]
  cases asked with
  | models plain =>
    refine ⟨"models".toList,⟨rfl,by decide,by decide,unblank (by decide),by decide,by decide⟩,?_⟩
    rw [modelsUrl,plain,if_neg Bool.false_ne_true,url,String.append_assoc,listed]
    rfl
  | deployments azure =>
    refine ⟨"openai/models".toList,⟨rfl,by decide,by decide,unblank (by decide),by decide,by decide⟩,?_⟩
    rw [modelsUrl,if_pos azure,String.append_assoc,listed,String.toList_append]
    rfl
  | version =>
    refine ⟨"api/version".toList,⟨rfl,by decide,by decide,unblank (by decide),by decide,by decide⟩,?_⟩
    rw [versionUrl,url,String.append_assoc,listed]
    rfl
  | tags =>
    refine ⟨"api/tags".toList,⟨rfl,by decide,by decide,unblank (by decide),by decide,by decide⟩,?_⟩
    rw [tagsUrl,url,String.append_assoc,listed]
    rfl

theorem Endpoint.ending {names : List Char} (endpoint : Endpoint suffix names) (asked : Option (List Char)) :
    ending (names ++ asking asked) = names ++ asking (asked.map Address.ending) := by
  have all {chars : List Char} (visible : ∀ c ∈ chars, blank c = false) : chars.filter kept = chars :=
    List.filter_eq_self.mpr fun c member => kept_visible (visible c member)
  cases asked with
  | none =>
    have stays : names.rdropWhile blank = names :=
      List.rdropWhile_eq_self_iff.mpr fun some => by simp [endpoint.visible _ (List.getLast_mem some)]
    rw [asking,Option.map_none,asking,List.append_nil,Address.ending,stays,all endpoint.visible]
  | some version =>
    have front : ∀ c ∈ names ++ '?' :: versionName, blank c = false := by
      intro c member
      rcases List.mem_append.mp member with name | rest
      · exact endpoint.visible c name
      · exact unblank (show ('?' :: versionName).any blank = false by decide) c rest
    have split (rest : List Char) : names ++ asking (some rest) = (names ++ '?' :: versionName) ++ '=' :: rest := by
      rw [asking,List.append_assoc,List.cons_append]
    rw [split,ending_append (by decide),all front,Option.map_some,split]

theorem tail_asked {chars : List Char} (unasked : '?' ∉ chars) (whole : '#' ∉ chars) (asked : Option (List Char)) :
    (tail (chars ++ asking asked)).1 = chars ∧ (tail (chars ++ asking asked)).2.1 =
      asked.map fun version => versionName ++ '=' :: version.takeWhile (· ≠ '#') := by
  cases asked with
  | none =>
    rw [asking,List.append_nil,tail_plain unasked whole]
    exact ⟨rfl,rfl⟩
  | some version => exact tail_asking unasked whole _

theorem Endpoint.beneath {a : Address} {names chars : List Char} (endpoint : Endpoint suffix names) (hosted : a.host.isSome)
    (begins : chars.head?.all SchemeKind.special.isSlash = true) (unasked : '?' ∉ chars) (whole : '#' ∉ chars)
    (asked : Option (List Char)) :
    (withTail .special a (chars ++ '/' :: (names ++ asking asked))).pathText =
      String.ofList (pathChars (directory chars)) ++ suffix ∧
    (withTail .special a (chars ++ '/' :: (names ++ asking asked))).query =
      asked.map fun version => String.ofList (queryChars (versionName ++ '=' :: version.takeWhile (· ≠ '#'))) := by
  have split : chars ++ '/' :: (names ++ asking asked) = (chars ++ '/' :: names) ++ asking asked := by
    rw [List.append_assoc,List.cons_append]
  have unasked' : '?' ∉ chars ++ '/' :: names := by simp [unasked,endpoint.unasked]
  have whole' : '#' ∉ chars ++ '/' :: names := by simp [whole,endpoint.whole]
  have parts := tail_asked unasked' whole' asked
  rw [split]
  constructor
  · have read : segments .special (tail ((chars ++ '/' :: names) ++ asking asked)).1 =
        (directory chars ++ pieces SchemeKind.special.isSlash names).map encodedPart := by
      rw [parts.1,segments_beneath begins,resolve_names endpoint.named]
    rw [pathText_tail hosted read,pathChars_append,endpoint.written,← endpoint.behind,String.ofList_append,
      String.ofList_toList]
  · rw [withTail_query,parts.2,Option.map_map]
    rfl

theorem base_slashes (c : Connection) : ∃ k, c.baseUrl = String.ofList (c.base.toList ++ List.replicate k '/') := by
  obtain ⟨k,slashes⟩ : ∃ k, c.baseUrl.toList.rtakeWhile (· = '/') = List.replicate k '/' :=
    ⟨_,List.eq_replicate_of_mem fun d member => of_decide_eq_true (List.mem_rtakeWhile_imp (p := (· = '/')) member)⟩
  refine ⟨k,?_⟩
  rw [base,String.toList_ofList,← slashes]
  change c.baseUrl = String.ofList (c.baseUrl.toList.rdropWhile (· = '/') ++ _)
  rw [List.rdropWhile_append_rtakeWhile,String.ofList_toList]

def trimmed (path : String) : String := String.ofList (path.toList.rdropWhile (· = '/'))

def EndsPlainly (base : String) : Prop :=
  (base.toList.filter kept).rtakeWhile (!SchemeKind.special.isSlash ·) ≠ [] ∧
    Names ((base.toList.filter kept).rtakeWhile (!SchemeKind.special.isSlash ·))

instance (base : String) : Decidable (EndsPlainly base) := inferInstanceAs (Decidable (_ ∧ _))

theorem trimmed_directory {base chars : List Char} (suffix : chars <:+ base.filter kept)
    (begins : chars.head?.all SchemeKind.special.isSlash = true) (plain : EndsPlainly (String.ofList base)) (n : Nat) :
    trimmed (String.ofList (pathChars (directory chars) ++ List.replicate n '/')) =
      String.ofList (pathChars (directory chars)) := by
  have ends : ∀ d ∈ (pathChars (directory chars)).getLast?, d ≠ '/' := by
    cases chars with
    | nil => exact nofun
    | cons c body =>
      obtain ⟨before,whole⟩ := suffix
      rw [EndsPlainly,String.toList_ofList,← whole] at plain
      have slash : (!SchemeKind.special.isSlash c) = false := by simpa using begins
      rw [rtakeWhile_behind _ slash] at plain
      exact directory_ends rfl plain.1 plain.2
  have slashes : ∀ d ∈ (List.replicate n '/').reverse, decide (d = '/') = true := by
    intro d member
    exact decide_eq_true (List.mem_replicate.mp (List.mem_reverse.mp member)).2
  have stays : (pathChars (directory chars)).rdropWhile (· = '/') = pathChars (directory chars) :=
    List.rdropWhile_eq_self_iff.mpr fun some => by simpa using ends _ (List.getLast?_eq_some_getLast some)
  rw [trimmed,String.toList_ofList,List.rdropWhile,List.reverse_append,List.dropWhile_append_of_pos slashes,
    ← List.rdropWhile,stays]

-- How a base address is read: before the slashes at its end, the characters behind its authority lead somewhere, and the
-- text of an endpoint goes on from there.
structure Leads (c : Connection) (a : Address) (way : List Char) (k : Nat) : Prop where
  hosted : a.host.isSome
  ends : ∀ d ∈ way.head?, endsAuthority .special d = true
  inside : Unpadded c.baseUrl → way <:+ c.base.toList.filter kept
  alone : k = 0 ∨ Unpadded c.baseUrl
  placed : Unpadded c.baseUrl ∨ way ≠ []
  own : withTail .special a (way ++ List.replicate k '/') = a
  further : ∀ rest, parse (String.ofList (c.base.toList ++ '/' :: rest)) =
    .ok (withTail .special a (way ++ (padding c.baseUrl ++ '/' :: ending rest)))

theorem base_leads {a : Address} (based : parse c.baseUrl = .ok a) (web : a.scheme = "http" ∨ a.scheme = "https")
    (apart : Unpadded c.baseUrl ∨ a.pathText ≠ "/") : ∃ way k, Leads c a way k := by
  obtain ⟨k,cut⟩ := base_slashes c
  obtain ⟨alone,core,begins,read⟩ := opening_slashed c.base.toList k
  rw [← cut] at alone begins read
  have special : SchemeKind.ofScheme a.scheme = .special := by
    rcases web with web | web
    all_goals rw [web]; decide
  obtain ⟨site,way,hosted,behind,ends,rfl,further⟩ := parse_append begins read based special
  have placed : Unpadded c.baseUrl ∨ way ≠ [] := by
    rcases apart with unpadded | other
    · exact .inl unpadded
    · rcases alone with none | unpadded
      · refine .inr fun empty => other ?_
        rw [none,empty]
        exact pathText_tail hosted (show _ = [[]].map encodedPart from rfl)
      · exact .inl unpadded
  refine ⟨way,k,hosted,ends,fun unpadded => ?_,alone,placed,rfl,further placed⟩
  rw [unpadded,List.append_nil] at begins
  exact behind.trans (begins ▸ opening_suffix _)

namespace Leads
variable {a : Address} {way : List Char} {k : Nat} (leads : Leads c a way k)

include leads

theorem cases : (('?' ∉ way ∧ '#' ∉ way) ∧ a.query = none ∧ a.fragment = none) ∨
    (('?' ∈ way ∨ '#' ∈ way) ∧ (a.query.isSome ∨ a.fragment.isSome)) := by
  rw [← leads.own]
  rcases tail_cases (way ++ List.replicate k '/') with ⟨unasked,whole⟩ | ⟨signs,some⟩
  · refine .inl ⟨⟨fun member => ?_,fun member => ?_⟩,?_⟩
    · exact unasked (List.mem_append_left _ member)
    · exact whole (List.mem_append_left _ member)
    · simp [withTail,tail_plain unasked whole]
  · have within {sign : Char} (other : sign ≠ '/') (member : sign ∈ way ++ List.replicate k '/') : sign ∈ way :=
      (List.mem_append.mp member).resolve_right fun slash => other (List.mem_replicate.mp slash).2
    exact .inr ⟨signs.imp (within (by decide)) (within (by decide)),by simpa [withTail] using some⟩

theorem stays (signs : '?' ∈ way ∨ '#' ∈ way) (more : List Char) :
    (withTail .special a (way ++ more)).pathText = a.pathText := by
  conv => rhs; rw [← leads.own]
  refine pathText_congr rfl ?_
  rw [withTail_path,withTail_path,tail_stops signs,tail_stops signs]

theorem begins (unasked : '?' ∉ way) (whole : '#' ∉ way) : way.head?.all SchemeKind.special.isSlash = true := by
  cases split : way with
  | nil => rfl
  | cons d rest =>
    have first := leads.ends d (by rw [split]; rfl)
    have other : d ≠ '?' ∧ d ≠ '#' := by
      rw [split] at unasked whole
      exact ⟨fun same => unasked (by simp [same]),fun same => whole (by simp [same])⟩
    simpa [endsAuthority,other] using first

theorem begins_padded (unasked : '?' ∉ way) (whole : '#' ∉ way) :
    (way ++ padding c.baseUrl).head?.all SchemeKind.special.isSlash = true := by
  have slash := leads.begins unasked whole
  rcases leads.placed with none | some
  · rwa [none,List.append_nil]
  · rwa [List.head?_append_of_ne_nil _ some]

theorem path (unasked : '?' ∉ way) (whole : '#' ∉ way) :
    let dir := String.ofList (pathChars (directory (way ++ padding c.baseUrl)))
    (Unpadded c.baseUrl → ∃ n, a.pathText = dir ++ String.ofList (List.replicate n '/')) ∧
    (Unpadded c.baseUrl → EndsPlainly c.base → dir = trimmed a.pathText) ∧
    (¬ Unpadded c.baseUrl → a.pathText.length < dir.length) := by
  have slash := leads.begins unasked whole
  obtain ⟨n,own⟩ := pathText_slashes leads.hosted slash unasked whole k
  rw [leads.own] at own
  refine ⟨fun unpadded => ⟨n,?_⟩,fun unpadded named => ?_,fun padded => ?_⟩
  · rw [own,unpadded,List.append_nil,String.ofList_append]
  · rw [own,unpadded,List.append_nil,trimmed_directory (leads.inside unpadded) slash (by rwa [String.ofList_toList])]
  · have bare := leads.own
    obtain rfl := leads.alone.resolve_right padded
    rw [List.replicate_zero,List.append_nil] at bare
    have longer := pathText_padded leads.hosted slash unasked whole (leads.placed.resolve_left padded) padded
      (padding_blank _)
    rwa [bare,← String.length_ofList] at longer

end Leads

theorem asked_site {a : Address} (based : parse c.baseUrl = .ok a) (web : a.scheme = "http" ∨ a.scheme = "https")
    (apart : Unpadded c.baseUrl ∨ a.pathText ≠ "/") (asked : Asked c url suffix version) :
    ∃ u, parse url = .ok u ∧ u.site = a.site := by
  obtain ⟨way,k,leads⟩ := base_leads based web apart
  obtain ⟨names,endpoint,rfl⟩ := asked.endpoint
  exact ⟨_,leads.further _,rfl⟩

-- What is asked of a connection, read as an address. It stands where the base address stands, and shows the same user.
-- Its path leads on from the base's where that has neither query nor fragment, and is the base's path alone otherwise.
theorem endpoint_beneath_base {a : Address} (based : parse c.baseUrl = .ok a)
    (web : a.scheme = "http" ∨ a.scheme = "https") (apart : Unpadded c.baseUrl ∨ a.pathText ≠ "/")
    (asked : Asked c url suffix version) :
    ∃ u, parse url = .ok u ∧ u.site = a.site ∧
      (a.query.isSome ∨ a.fragment.isSome → u.pathText = a.pathText) ∧
      (a.query = none → a.fragment = none → ∃ dir, u.pathText = dir ++ suffix ∧
        ((Unpadded c.baseUrl → ∃ n, a.pathText = dir ++ String.ofList (List.replicate n '/')) ∧
          (Unpadded c.baseUrl → EndsPlainly c.base → dir = trimmed a.pathText) ∧
          (¬ Unpadded c.baseUrl → a.pathText.length < dir.length)) ∧
        u.query.isSome = version.isSome ∧
        ∀ query ∈ u.query, ∀ given ∈ version, parameters query = [(utf8 "api-version",utf8 given)] ↔ Verbatim given) := by
  obtain ⟨way,k,leads⟩ := base_leads based web apart
  obtain ⟨names,endpoint,rfl⟩ := asked.endpoint
  have parsed := leads.further (names ++ asking (version.map String.toList))
  rw [endpoint.ending] at parsed
  refine ⟨_,parsed,rfl,?_⟩
  rcases leads.cases with ⟨⟨unasked,whole⟩,unqueried,unmarked⟩ | ⟨signs,some⟩
  · have absent {sign : Char} (visible : blank sign = false) (other : sign ∉ way) : sign ∉ way ++ padding c.baseUrl := by
      intro member
      rcases List.mem_append.mp member with there | pad
      · exact other there
      · exact blank_sign visible (padding_blank _ _ pad) rfl
    obtain ⟨path,query⟩ := endpoint.beneath leads.hosted (leads.begins_padded unasked whole) (absent (by decide) unasked)
      (absent (by decide) whole) ((version.map String.toList).map Address.ending)
    rw [List.append_assoc] at path query
    refine ⟨?_,fun _ _ => ⟨_,path,leads.path unasked whole,?_,?_⟩⟩
    · simp [unqueried,unmarked]
    · rw [query]
      cases version with
      | none => rfl
      | some version => rfl
    · intro shown first given second
      cases second
      rw [query] at first
      cases first
      have name : fieldText versionName = utf8 "api-version" := by decide +kernel
      have read := parameters_verbatim (show '=' ∉ versionName by decide) (show '&' ∉ versionName by decide) given
      rwa [name] at read
  · refine ⟨fun _ => leads.stays signs _,fun unqueried unmarked => ?_⟩
    simp [unqueried,unmarked] at some

end

def azureAt (baseUrl : String) : Connection :=
  { Listing.serving baseUrl with azure := true,apiVersion := some "2024&x=y" }

-- A slash at the end of a base address does no harm, but a version is not shown as it is; behind a blank at its end or a
-- query in it, models are not asked for where the base leads.
theorem blank_moves_models :
    (∃ u, parse (azureAt "http://h/v1/").modelsUrl = .ok u ∧ u.pathText = "/v1/openai/models" ∧
      ∀ query ∈ u.query, parameters query ≠ [(utf8 "api-version",utf8 "2024&x=y")]) ∧
    (∃ u, parse (Listing.serving "http://h/v1 ").modelsUrl = .ok u ∧ u.pathText ≠ "/v1/models") ∧
    ∃ u, parse (Listing.serving "http://h/v1?x=1").modelsUrl = .ok u ∧ u.pathText = "/v1" := by
  refine ⟨?_,?_,?_⟩
  · have based : parse (azureAt "http://h/v1/").baseUrl =
        .ok { scheme := "http",host := some (.name "h"),path := .segments ["v1",""] } :=
      ok_of_toOption (by decide +kernel)
    obtain ⟨u,parsed,-,-,beneath⟩ := endpoint_beneath_base based (.inl rfl) (.inl (by decide)) (.deployments rfl)
    obtain ⟨dir,path,⟨-,plain,-⟩,-,query⟩ := beneath rfl rfl
    refine ⟨u,parsed,?_,fun text shown read => ?_⟩
    · rw [path,plain (by decide) (by decide)]
      decide
    · have verbatim := (query text shown _ rfl).mp read
      exact absurd verbatim.single (by decide)
  · have based : parse (Listing.serving "http://h/v1 ").baseUrl =
        .ok { scheme := "http",host := some (.name "h"),path := .segments ["v1"] } :=
      ok_of_toOption (by decide +kernel)
    obtain ⟨u,parsed,-,-,beneath⟩ := endpoint_beneath_base based (.inl rfl) (.inr (by decide)) (.models rfl)
    obtain ⟨dir,path,⟨-,-,longer⟩,-⟩ := beneath rfl rfl
    refine ⟨u,parsed,fun same => ?_⟩
    have deeper : "/v1".length < dir.length := longer (by decide)
    have measured := congrArg String.length (path.symm.trans same)
    rw [String.length_append,show "/v1/models".length = "/v1".length + "/models".length by decide] at measured
    omega
  · have based : parse (Listing.serving "http://h/v1?x=1").baseUrl =
        .ok { scheme := "http",host := some (.name "h"),path := .segments ["v1"],query := some "x=1" } :=
      ok_of_toOption (by decide +kernel)
    obtain ⟨u,parsed,-,stays,-⟩ := endpoint_beneath_base based (.inl rfl) (.inl (by decide)) (.models rfl)
    refine ⟨u,parsed,?_⟩
    rw [stays (.inl rfl)]
    decide

end Connection
end ModelCatalog
