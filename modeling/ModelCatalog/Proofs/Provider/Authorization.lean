import ModelCatalog.Proofs.Catalog.Keyless
import ModelCatalog.Proofs.Catalog.Union
import ModelCatalog.Proofs.Provider.Endpoint

namespace ModelCatalog
open Json Web Catalog

def Connection.authorizations (c : Connection) : List String :=
  (c.headers.entries.filter fun h => Header.key h = "authorization").map Prod.snd

namespace Web

def valuesOf (name : String) (headers : List (String × String)) : List String :=
  (headers.filter fun h => h.1 = name).map Prod.snd

def Request.values (r : Request) (name : String) : List String := valuesOf name r.headers

theorem valuesOf_append (name : String) (front behind : List (String × String)) :
    valuesOf name (front ++ behind) = valuesOf name front ++ valuesOf name behind := by
  rw [valuesOf,List.filter_append,List.map_append]
  rfl

theorem user?_site {a b : Address} (same : a.site = b.site) : a.user? = b.user? := by
  change a.site.user? = b.site.user?
  rw [same]

namespace Request
variable {a : Address} {headers more : List Header} {token agent : Option String} {r : Request} {url : String}

theorem addressed_ok (found : addressed url = .ok a) : Address.parse url = .ok a := by
  unfold addressed at found
  cases parsed : Address.parse url with
  | error e =>
    rw [parsed] at found
    cases found
  | ok b =>
    rw [parsed] at found
    obtain ⟨own,same,rest⟩ := bind_ok.mp found
    cases same
    dsimp only at rest
    split at rest
    · cases rest
    · exact congrArg Except.ok (pure_ok.mp rest)

theorem assembled_ok (made : assembled a headers more agent = .ok r) :
    let chosen := (a.user?.map basic).toList ++ headers.map (fun h => (h.key,h.2)) ++ more
    (headers ++ more).all Header.isLegal = true ∧ r = ⟨userless a,chosen ++ signed chosen agent⟩ := by
  unfold assembled at made
  dsimp only at made
  split at made
  · cases made
  · next legal =>
    split at made
    · cases made
    · cases made
      exact ⟨by simpa using legal,rfl⟩

theorem values_signed (chosen : List Header) (agent : Option String) :
    valuesOf "authorization" (signed chosen agent) = [] := by
  cases agent with
  | none => rfl
  | some agent =>
    unfold signed
    dsimp only
    split
    · rfl
    · rfl

theorem values_headers (headers : List Header) :
    valuesOf "authorization" (headers.map fun h => (h.key,h.2)) =
      (headers.filter fun h => h.key = "authorization").map Prod.snd := by
  rw [valuesOf,List.filter_map,List.map_map]
  rfl

-- One header more than without it: where no request is made, none is made with it either.
inductive Adds (h : Header) : Except ε Request → Except ε Request → Prop where
  | refused (e : ε) : Adds h (.error e) (.error e)
  | made (address : Address) (before after : List Header) :
      Adds h (.ok ⟨address,before ++ after⟩) (.ok ⟨address,before ++ h :: after⟩)

theorem Adds.mapError {h : Header} {x y : Except ε Request} (adds : Adds h x y) (f : ε → ε') :
    Adds h (x.mapError f) (y.mapError f) := by
  cases adds with
  | refused e => exact .refused (f e)
  | made address before after => exact .made address before after

theorem assembled_adds {k : String} (sendable : Sendable k) (a : Address) (headers : List Header)
    (agent : Option String) : Adds (bearer k) (assembled a headers [] agent) (assembled a headers [bearer k] agent) := by
  unfold assembled
  dsimp only
  rw [legal_beside sendable,List.append_nil,List.append_nil]
  split
  · exact .refused _
  · split
    · exact .refused _
    · rw [signed_beside,List.append_assoc _ [bearer k]]
      exact .made _ _ _

theorem assembled_illegal {k : String} (illegal : Header.isValue k = false) (a : Address) (headers : List Header)
    (agent : Option String) : assembled a headers [bearer k] agent ≠ .ok r := by
  intro made
  have legal := List.all_eq_true.mp (assembled_ok made).1 (bearer k) (by simp)
  have value : Header.isValue ("Bearer " ++ k) = true := (Bool.and_eq_true_iff.mp legal).2
  rw [Header.isValue,String.toList_append,List.all_append,Bool.and_eq_true_iff] at value
  exact absurd (value.2.symm.trans illegal) (by decide)

end Request
end Web

namespace Connection
variable {c : Connection} {s : Service} {r : Request} {url : String}

theorem request_eq (s : Service) (c : Connection) (url : String) : s.request c url =
    (Request.addressed url >>= fun a => Request.assembled a c.headers.entries
      (Request.carried c.headers.entries c.bearerToken) s.config.userAgent).mapError .unreachable := by
  rw [Service.request,Request.make_eq]

theorem any_authorizations (c : Connection) :
    (c.headers.entries.any fun h => Header.key h = "authorization") = true ↔ c.authorizations ≠ [] := by
  rw [authorizations,Ne,List.map_eq_nil_iff,List.filter_eq_nil_iff,List.any_eq_true]
  push Not
  rfl

def shown (c : Connection) : List String :=
  if c.authorizations = [] then (c.bearerToken.map ("Bearer " ++ ·)).toList else []

theorem values_carried (c : Connection) :
    valuesOf "authorization" (Request.carried c.headers.entries c.bearerToken) = c.shown := by
  unfold Request.carried shown
  cases c.bearerToken with
  | none => simp [valuesOf]
  | some token =>
    dsimp only
    by_cases configured : c.authorizations = []
    · have none : ¬ (c.headers.entries.any fun h => Header.key h = "authorization") = true :=
        mt c.any_authorizations.mp (not_not_intro configured)
      rw [if_neg none,if_pos configured]
      rfl
    · rw [if_pos (c.any_authorizations.mpr configured),if_neg configured]
      rfl

theorem request_values (made : s.request c url = .ok r) : ∃ u, Address.parse url = .ok u ∧
    r.values "authorization" = (u.user?.map fun user => (basic user).2).toList ++ c.authorizations ++ c.shown := by
  rw [request_eq] at made
  obtain ⟨u,addressed,assembled⟩ := bind_ok.mp (mapError_ok.mp made)
  obtain ⟨-,rfl⟩ := Request.assembled_ok assembled
  refine ⟨u,Request.addressed_ok addressed,?_⟩
  have user : valuesOf "authorization" (u.user?.map basic).toList = (u.user?.map fun user => (basic user).2).toList := by
    cases u.user? <;> rfl
  rw [Request.values,valuesOf_append,valuesOf_append,valuesOf_append,Request.values_signed,Request.values_headers,user,
    c.values_carried,List.append_nil]
  rfl

-- What a request says of who asks. At most one authorization is sent just in case the address names no user and one is
-- configured at most, or nothing but the user is there to be sent; the user is that of the base address, whatever key or
-- headers a connection has.
theorem authorizations_sent (made : s.request c url = .ok r) : ∃ u, Address.parse url = .ok u ∧
    r.values "authorization" = (u.user?.map fun user => (basic user).2).toList ++ c.authorizations ++ c.shown ∧
    (r.values "authorization" = [] ↔ u.user? = none ∧ c.authorizations = [] ∧ c.bearerToken = none) ∧
    ((r.values "authorization").length ≤ 1 ↔
      u.user? = none ∧ c.authorizations.length ≤ 1 ∨ c.authorizations = [] ∧ c.bearerToken = none) ∧
    ∀ a, Address.parse c.baseUrl = .ok a → a.scheme = "http" ∨ a.scheme = "https" →
      Address.Unpadded c.baseUrl ∨ a.pathText ≠ "/" → url = c.verifyUrl ∨ url = c.listUrl → u.user? = a.user? := by
  obtain ⟨u,parsed,values⟩ := request_values made
  have first : (u.user?.map fun user => (basic user).2).toList = [] ↔ u.user? = none := by
    cases u.user? <;> simp
  refine ⟨u,parsed,values,?_,?_,?_⟩
  · rw [values,List.append_eq_nil_iff,List.append_eq_nil_iff,first,shown,and_assoc]
    refine and_congr_right fun _ => and_congr_right fun none => ?_
    rw [if_pos none]
    cases c.bearerToken <;> simp
  · rw [values,shown]
    cases u.user? <;> cases c.authorizations <;> cases c.bearerToken <;> simp
  · intro a based web apart own
    obtain ⟨suffix,version,asked⟩ : ∃ suffix version, c.Asked url suffix version := by
      rcases own with rfl | rfl
      · exact c.verifyUrl_asked
      · exact c.listUrl_asked
    obtain ⟨v,read,same⟩ := asked_site based web apart asked
    cases parsed.symm.trans read
    exact user?_site same

-- An endpoint whose address names a user, and one with two authorizations, both with a key that is not used.
def userAt (headers : Ordered.Keyed String String) (baseUrl : String) : Connection :=
  { Listing.serving baseUrl with apiKey := "k",authType := .none,headers }

def twoSpellings : Ordered.Keyed String String := .ofList [("Authorization","a"),("authorization","b")]

-- A key that is not to be presented is not, but the user of the address is, and every spelling of a header.
theorem base_user_sent :
    (∃ r, standard.request (userAt ∅ "http://u:p@h/v1") "http://u:p@h/v1/models" = .ok r ∧
      r.values "authorization" = ["Basic dTpw"]) ∧
    ∃ r, standard.request (userAt twoSpellings "http://h") "http://h/models" = .ok r ∧
      r.values "authorization" = ["a","b"] := by
  have sent {c : Connection} {url : String} {u : Address} (some : (standard.request c url).toOption.isSome)
      (read : Address.parse url = .ok u) : ∃ r, standard.request c url = .ok r ∧ r.values "authorization" =
        (u.user?.map fun user => (basic user).2).toList ++ c.authorizations ++ c.shown := by
    obtain ⟨r,made⟩ := Option.isSome_iff_exists.mp some
    obtain ⟨v,parsed,values,-⟩ := authorizations_sent (ok_of_toOption made)
    cases parsed.symm.trans read
    exact ⟨r,ok_of_toOption made,values⟩
  constructor
  · have named : Address.parse "http://u:p@h/v1/models" = .ok
        { scheme := "http",username := "u",password := some "p",host := some (.name "h"),path := .segments ["v1","models"] } :=
      ok_of_toOption (by decide +kernel)
    obtain ⟨r,made,values⟩ := sent (c := userAt ∅ "http://u:p@h/v1") (by decide +kernel) named
    exact ⟨r,made,values.trans (by decide +kernel)⟩
  · have bare : Address.parse "http://h/models" =
        .ok { scheme := "http",host := some (.name "h"),path := .segments ["models"] } := ok_of_toOption (by decide +kernel)
    obtain ⟨r,made,values⟩ := sent (c := userAt twoSpellings "http://h") (by decide +kernel) bare
    exact ⟨r,made,values.trans (by decide +kernel)⟩

-- A key is withheld where it is not to be presented, or where an authorization is configured.
def Withheld (c : Connection) : Prop := c.authType = .none ∨ c.authorizations ≠ []

theorem carried_withheld (withheld : c.Withheld) : Request.carried c.headers.entries c.bearerToken = [] := by
  unfold Request.carried
  rcases withheld with silent | configured
  · rw [bearerToken,silent]
  · cases c.bearerToken with
    | none => rfl
    | some token => exact if_pos (c.any_authorizations.mpr configured)

theorem carried_rekey (shows : ¬ c.Withheld) (k : String) :
    Request.carried c.headers.entries (c.rekey k).bearerToken = if k = "" then [] else [bearer k] := by
  obtain ⟨presented,none⟩ := not_or.mp shows
  have bearing : c.authType = .bearer := by
    cases kind : c.authType with
    | bearer => rfl
    | none => exact (presented kind).elim
  have unset : ¬ (c.headers.entries.any fun h => Header.key h = "authorization") = true := mt c.any_authorizations.mp none
  have token : (c.rekey k).bearerToken = if k = "" then Option.none else some k := by
    rw [bearerToken,show (c.rekey k).authType = .bearer from bearing]
    rfl
  rw [token]
  split
  · rfl
  · exact if_neg unset

theorem request_rekey (shows : ¬ c.Withheld) (s : Service) (k url : String) : s.request (c.rekey k) url =
    (Request.addressed url >>= fun a => Request.assembled a c.headers.entries (if k = "" then [] else [bearer k])
      s.config.userAgent).mapError .unreachable := by
  rw [← carried_rekey shows]
  exact request_eq s (c.rekey k) url

theorem request_withheld (withheld : c.Withheld) (s : Service) (k url : String) :
    s.request (c.rekey k) url = s.request c url := by
  have other : (c.rekey k).Withheld := withheld
  rw [request_eq,request_eq,carried_withheld withheld,carried_withheld other]
  rfl

-- A key that is withheld makes no difference to what is asked and to what comes of it, whatever its characters. Any other
-- key adds one header to what is asked without a key, and nothing is asked where it cannot be sent.
theorem key_withheld_or_added (s : Service) (c : Connection) (k : String) :
    ((c.rekey k).verifyUrl = c.verifyUrl ∧ (c.rekey k).listUrl = c.listUrl) ∧
    (c.Withheld → (∀ url, s.request (c.rekey k) url = s.request c url) ∧
      ∀ w, s.probe w (c.rekey k) = s.probe w c ∧ ∀ index, s.listModels w (c.rekey k) index = s.listModels w c index) ∧
    (¬ c.Withheld → ∀ url,
      (Sendable k → Request.Adds (bearer k) (s.request (c.rekey "") url) (s.request (c.rekey k) url)) ∧
      (k ≠ "" → Header.isValue k = false → ∀ r, s.request (c.rekey k) url ≠ .ok r)) := by
  refine ⟨⟨rfl,rfl⟩,fun withheld => ?_,fun shows url => ⟨fun sendable => ?_,fun given illegal r made => ?_⟩⟩
  · have asked := request_withheld withheld s k
    have sent (w : Surroundings) (url : String) : s.send w (c.rekey k) url = s.send w c url := by
      rw [Service.send,Service.send,asked]
    refine ⟨asked,fun w => ⟨?_,fun index => ?_⟩⟩
    · unfold Service.probe
      rw [sent]
      rfl
    · unfold Service.listModels
      rw [sent]
      rfl
  · rw [request_rekey shows,request_rekey shows,if_pos rfl,if_neg sendable.1]
    refine Request.Adds.mapError ?_ _
    cases Request.addressed url with
    | error e => exact .refused e
    | ok a => exact Request.assembled_adds sendable a _ _
  · rw [request_rekey shows,if_neg given] at made
    obtain ⟨a,-,assembled⟩ := bind_ok.mp (mapError_ok.mp made)
    exact Request.assembled_illegal illegal a _ _ assembled

-- A line end cannot be sent. As a key it does no harm where it is withheld; elsewhere nothing is asked with it, and a key
-- that can be sent is added.
theorem unsendable_key_withheld :
    (∃ r, standard.request ((userAt twoSpellings "http://h").rekey "\n") "http://h/models" = .ok r ∧
      standard.request (userAt twoSpellings "http://h") "http://h/models" = .ok r) ∧
    (∀ r, standard.request ((Listing.serving "http://h").rekey "\n") "http://h/models" ≠ .ok r) ∧
    ∃ address before after, standard.request ((Listing.serving "http://h").rekey "") "http://h/models" =
        .ok ⟨address,before ++ after⟩ ∧
      standard.request ((Listing.serving "http://h").rekey "k") "http://h/models" =
        .ok ⟨address,before ++ bearer "k" :: after⟩ := by
  have shows : ¬ (Listing.serving "http://h").Withheld := by
    unfold Withheld
    decide +kernel
  refine ⟨?_,?_,?_⟩
  · have some : (standard.request (userAt twoSpellings "http://h") "http://h/models").toOption.isSome := by
      decide +kernel
    obtain ⟨r,made⟩ := Option.isSome_iff_exists.mp some
    obtain ⟨same,-⟩ := (key_withheld_or_added standard (userAt twoSpellings "http://h") "\n").2.1 (.inl rfl)
    exact ⟨r,(same _).trans (ok_of_toOption made),ok_of_toOption made⟩
  · exact ((key_withheld_or_added standard (Listing.serving "http://h") "\n").2.2 shows _).2 (by decide) (by decide)
  · have adds := ((key_withheld_or_added standard (Listing.serving "http://h") "k").2.2 shows "http://h/models").1
      (by decide)
    have some : (standard.request ((Listing.serving "http://h").rekey "") "http://h/models").toOption.isSome := by
      decide +kernel
    generalize standard.request ((Listing.serving "http://h").rekey "") "http://h/models" = without at adds some ⊢
    generalize standard.request ((Listing.serving "http://h").rekey "k") "http://h/models" = keyed at adds ⊢
    cases adds with
    | refused e => cases some
    | made address before after => exact ⟨address,before,after,rfl,rfl⟩

end Connection
end ModelCatalog
