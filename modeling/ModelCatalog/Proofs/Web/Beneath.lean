import ModelCatalog.Proofs.Web.Path
import ModelCatalog.Proofs.Web.Written

namespace ModelCatalog.Web.Address
open Text Json
variable {front behind chars rest : List Char} {scheme : String} {a : Address}

-- What is passed over at the ends of a text, and what is read of it.
def blank (c : Char) : Bool := c.toNat ≤ 0x20

def kept (c : Char) : Bool := c ≠ '\t' && c ≠ '\n' && c ≠ '\r'

-- What is read of the front of a text where something follows, and of its end where something stands before.
def opening (chars : List Char) : List Char := (chars.dropWhile blank).filter kept

def ending (chars : List Char) : List Char := (chars.rdropWhile blank).filter kept

theorem significant_eq (text : String) :
    significant text = ((text.toList.dropWhile blank).rdropWhile blank).filter kept := rfl

theorem dropWhile_behind (drop : Char → Bool) (visible : ∀ c ∈ behind.head?, drop c = false) :
    (front ++ behind).dropWhile drop = front.dropWhile drop ++ behind := by
  have stays : behind.dropWhile drop = behind := by
    cases behind with
    | nil => rfl
    | cons c rest => exact List.dropWhile_cons_of_neg (by simp [visible c rfl])
  rw [List.dropWhile_append]
  split
  · next none => rw [stays,List.isEmpty_iff.mp none,List.nil_append]
  · rfl

theorem rdropWhile_behind (drop : Char → Bool) {c : Char} (visible : drop c = false) (front rest : List Char) :
    (front ++ c :: rest).rdropWhile drop = front ++ c :: rest.rdropWhile drop := by
  rw [List.rdropWhile,List.reverse_append,List.reverse_cons,List.append_assoc,
    dropWhile_behind drop fun d first => by cases first; exact visible]
  simp [List.rdropWhile]

theorem rtakeWhile_behind (take : Char → Bool) {c : Char} (stops : take c = false) (front rest : List Char) :
    (front ++ c :: rest).rtakeWhile take = rest.rtakeWhile take := by
  have whole := List.rdropWhile_append_rtakeWhile (p := take) (l := front ++ c :: rest)
  have own := List.rdropWhile_append_rtakeWhile (p := take) (l := rest)
  rw [rdropWhile_behind take stops,List.append_assoc,List.cons_append] at whole
  conv at whole => rhs; rw [← own]
  exact List.append_cancel_left (List.cons.inj (List.append_cancel_left whole)).2

theorem kept_visible {c : Char} (visible : blank c = false) : kept c = true := by
  by_contra other
  have sign : c = '\t' ∨ c = '\n' ∨ c = '\r' := by
    by_contra none
    simp only [not_or] at none
    exact other (by simp [kept,none])
  rcases sign with rfl | rfl | rfl
  all_goals cases visible

theorem opening_append (visible : ∀ c ∈ behind.head?, blank c = false) :
    opening (front ++ behind) = opening front ++ behind.filter kept := by
  rw [opening,dropWhile_behind blank visible,List.filter_append]
  rfl

theorem ending_append {c : Char} (visible : blank c = false) (front rest : List Char) :
    ending (front ++ c :: rest) = front.filter kept ++ c :: ending rest := by
  rw [ending,rdropWhile_behind blank visible,List.filter_append,List.filter_cons_of_pos (kept_visible visible)]
  rfl

theorem significant_append {c : Char} (visible : blank c = false) (front rest : List Char) :
    significant (String.ofList (front ++ c :: rest)) = opening front ++ c :: ending rest := by
  rw [significant_eq,String.toList_ofList,dropWhile_behind blank fun d first => by cases first; exact visible,
    rdropWhile_behind blank visible,List.filter_append,List.filter_cons_of_pos (kept_visible visible)]
  rfl

theorem filter_dropWhile (chars : List Char) :
    (chars.dropWhile blank).filter kept = (chars.filter kept).dropWhile blank := by
  induction chars with
  | nil => rfl
  | cons c rest ih =>
    cases visible : blank c with
    | false => rw [List.dropWhile_cons_of_neg (by simp [visible]),List.filter_cons_of_pos (kept_visible visible),
        List.dropWhile_cons_of_neg (by simp [visible])]
    | true =>
      rw [List.dropWhile_cons_of_pos visible,ih]
      cases there : kept c with
      | false => rw [List.filter_cons_of_neg (by simp [there])]
      | true => rw [List.filter_cons_of_pos there,List.dropWhile_cons_of_pos visible]

-- The blanks that are passed over at a text's end, and would count if the text went on.
def padding (text : String) : List Char := (opening text.toList).rtakeWhile blank

def Unpadded (text : String) : Prop := padding text = []

instance (text : String) : Decidable (Unpadded text) := inferInstanceAs (Decidable (_ = _))

theorem significant_padding (text : String) : significant text ++ padding text = opening text.toList := by
  have same : significant text = (opening text.toList).rdropWhile blank := by
    rw [significant_eq,opening,List.rdropWhile,List.rdropWhile,List.filter_reverse,
      filter_dropWhile (text.toList.dropWhile blank).reverse,List.filter_reverse]
  rw [same,padding,List.rdropWhile_append_rtakeWhile]

theorem padding_blank (text : String) : ∀ c ∈ padding text, blank c = true := fun _ => List.mem_rtakeWhile_imp

theorem unblank {chars : List Char} (visible : chars.any blank = false) : ∀ c ∈ chars, blank c = false := by
  intro c member
  simpa using List.any_eq_false.mp visible c member

theorem names_of_blank {part : List Char} {c : Char} (member : c ∈ part) (there : blank c = true) : Names part := by
  have same : c.toLower = c := by
    have all : ∀ n ≤ 0x20, (Char.ofNat n).toLower = Char.ofNat n := by decide
    have own := all c.toNat (of_decide_eq_true there)
    rwa [Char.ofNat_toNat] at own
  have lowered : c ∈ (lower part).toList := by
    rw [lower,String.toList_ofList]
    exact List.mem_map.mpr ⟨c,member,same⟩
  have dots : ∀ s ∈ ["..",".%2e","%2e.","%2e%2e",".","%2e"], s.toList.any blank = false := by decide
  have apart {texts : List String} (inside : texts ⊆ ["..",".%2e","%2e.","%2e%2e",".","%2e"]) :
      texts.contains (lower part) = false := by
    rw [← Bool.not_eq_true,List.contains_iff_mem]
    intro found
    rw [unblank (dots _ (inside found)) c lowered] at there
    cases there
  exact ⟨apart (by simp),apart (by simp)⟩

theorem blank_sign {c sign : Char} (visible : blank sign = false) (there : blank c = true) : c ≠ sign := by
  rintro rfl
  rw [visible] at there
  cases there

theorem opening_slashed (base : List Char) (k : Nat) : let text := String.ofList (base ++ List.replicate k '/')
    (k = 0 ∨ padding text = []) ∧ ∃ core, opening base = core ++ padding text ∧
      significant text = core ++ List.replicate k '/' := by
  intro text
  cases k with
  | zero =>
    have own : text.toList = base := by simp [text]
    exact ⟨.inl rfl,_,own ▸ (significant_padding text).symm,(List.append_nil _).symm⟩
  | succ k =>
    have visible : blank '/' = false := by decide
    have read : opening text.toList = opening base ++ List.replicate (k + 1) '/' := by
      rw [String.toList_ofList,opening_append fun c first => by cases first; exact visible,List.filter_replicate]
      rfl
    have none : padding text = [] := by
      rw [padding,read,List.replicate_succ',← List.append_assoc]
      exact List.rtakeWhile_concat_neg _ _ _ (by simp [visible])
    refine ⟨.inr none,opening base,?_,?_⟩
    · rw [none,List.append_nil]
    · rw [← read,← significant_padding text,none,List.append_nil]

def schemePart (c : Char) : Bool := c.isAlphanum || c = '+' || c = '-' || c = '.'

theorem scheme?_iff : scheme? chars = some (scheme,rest) ↔ ∃ name, chars = name ++ ':' :: rest ∧
    (∀ c ∈ name, schemePart c = true) ∧ name.head?.any Char.isAlpha = true ∧
      scheme = String.ofList (name.map Char.toLower) := by
  have part : (fun c : Char => c.isAlphanum || c = '+' || c = '-' || c = '.') = schemePart := rfl
  unfold scheme?
  simp only [part]
  constructor
  · intro found
    split at found
    · next first others after stops =>
      split at found
      · next alpha =>
        cases found
        have whole := List.takeWhile_append_dropWhile (p := schemePart) (l := first :: others)
        rw [stops] at whole
        refine ⟨_,whole.symm,fun c member => List.mem_takeWhile_imp member,?_,rfl⟩
        cases taken : (first :: others).takeWhile schemePart with
        | nil =>
          rw [taken] at whole
          cases whole
          exact absurd alpha (by decide)
        | cons d name =>
          rw [taken] at whole
          cases whole
          exact alpha
      · cases found
    · cases found
  · rintro ⟨name,rfl,parts,alpha,rfl⟩
    have stop : schemePart ':' = false := by decide
    have taken : (name ++ ':' :: rest).takeWhile schemePart = name := by
      rw [List.takeWhile_append_of_pos parts,List.takeWhile_cons_of_neg (by simp [stop]),List.append_nil]
    have dropped : (name ++ ':' :: rest).dropWhile schemePart = ':' :: rest := by
      rw [List.dropWhile_append_of_pos parts,List.dropWhile_cons_of_neg (by simp [stop])]
    cases name with
    | nil => cases alpha
    | cons first others =>
      rw [taken,dropped]
      exact if_pos alpha

theorem scheme?_append (found : scheme? front = some (scheme,rest)) (behind : List Char) :
    scheme? (front ++ behind) = some (scheme,rest ++ behind) := by
  obtain ⟨name,rfl,parts,alpha,rfl⟩ := scheme?_iff.mp found
  exact scheme?_iff.mpr ⟨name,by rw [List.append_assoc,List.cons_append],parts,alpha,rfl⟩

theorem scheme?_front (found : scheme? (front ++ behind) = some (scheme,rest))
    (apart : ∀ c ∈ behind.head?, c ≠ ':' ∧ schemePart c = false) :
    ∃ own, scheme? front = some (scheme,own) ∧ rest = own ++ behind := by
  obtain ⟨name,whole,parts,alpha,rfl⟩ := scheme?_iff.mp found
  rcases List.append_eq_append_iff.mp whole with ⟨more,rfl,begins⟩ | ⟨more,rfl,begins⟩
  · cases more with
    | nil =>
      rw [List.nil_append] at begins
      exact ((apart ':' (by rw [begins]; rfl)).1 rfl).elim
    | cons c more =>
      have outside := (apart c (by rw [begins]; rfl)).2
      rw [parts c (List.mem_append_right _ List.mem_cons_self)] at outside
      cases outside
  · cases more with
    | nil => exact ((apart ':' (by rw [← List.nil_append behind,← begins]; rfl)).1 rfl).elim
    | cons c more =>
      obtain ⟨rfl,rfl⟩ := List.cons.inj begins
      exact ⟨more,scheme?_iff.mpr ⟨name,rfl,parts,alpha,rfl⟩,rfl⟩

theorem parseAuthority_ok {kind : SchemeKind} (parsed : parseAuthority scheme kind chars = .ok a) :
    a.scheme = scheme ∧ a.host.isSome := by
  unfold parseAuthority at parsed
  dsimp only at parsed
  split_ifs at parsed with empty refused special special special
  all_goals first
    | cases parsed
    | obtain ⟨host,-,rest⟩ := bind_ok.mp parsed
      obtain ⟨port,-,made⟩ := bind_ok.mp rest
      cases made
      exact ⟨rfl,rfl⟩

theorem mem_hostAndPort (inside : Bool) (chars : List Char) :
    ∀ c ∈ (hostAndPort inside chars).2.getD [], c ∈ chars := by
  induction chars generalizing inside with
  | nil => exact nofun
  | cons d rest ih =>
    intro c member
    rw [hostAndPort] at member
    split at member
    · exact List.mem_cons_of_mem _ member
    · exact List.mem_cons_of_mem _ (ih _ c member)

theorem span_append {p : Char → Bool} (inside : ∀ c ∈ front, p c = true) (stops : ∀ c ∈ behind.head?, p c = false) :
    (front ++ behind).takeWhile p = front ∧ (front ++ behind).dropWhile p = behind := by
  rw [List.takeWhile_append_of_pos inside,List.dropWhile_append_of_pos inside]
  cases behind with
  | nil => exact ⟨List.append_nil front,rfl⟩
  | cons c rest =>
    have stop := stops c rfl
    rw [List.takeWhile_cons_of_neg (by simp [stop]),List.dropWhile_cons_of_neg (by simp [stop])]
    exact ⟨List.append_nil front,rfl⟩

theorem build_map {reading : Except AddressError Host} {port : Except AddressError (Option Nat)}
    {build built : Host → Option Nat → Address} {f : Address → Address} (same : ∀ h p, f (build h p) = built h p) :
    (reading >>= fun h => port >>= fun p => pure (built h p)) =
      Except.map f (reading >>= fun h => port >>= fun p => pure (build h p)) := by
  cases reading with
  | error e => rfl
  | ok h => cases port with
    | error e => rfl
    | ok p => exact congrArg Except.ok (same h p).symm

theorem parseAuthority_append {authority : List Char} (inside : ∀ c ∈ authority, endsAuthority .special c = false)
    (begins : ∀ c ∈ rest.head?, endsAuthority .special c = true) :
    parseAuthority scheme .special (authority ++ rest) =
      (parseAuthority scheme .special authority).map (withTail .special · rest) := by
  have all : ∀ c ∈ authority, (!endsAuthority .special c) = true := fun c member => by rw [inside c member]; rfl
  have alone := span_append all (fun c (first : c ∈ ([] : List Char).head?) => nomatch first)
  have cut := span_append all fun c (first : c ∈ rest.head?) => by rw [begins c first]; rfl
  have port : (beforeBackslash ((hostAndPort false (place authority)).2.getD [])).2 = [] := by
    refine List.dropWhile_eq_nil_iff.mpr fun c member => decide_eq_true ?_
    rintro rfl
    obtain ⟨user,parts,-⟩ := place_cut authority
    have there : '\\' ∈ authority := by
      rw [parts]
      exact List.mem_append_right _ (mem_hostAndPort false _ _ member)
    exact absurd (inside _ there) (by decide)
  rw [List.append_nil] at alone
  unfold parseAuthority
  dsimp only
  rw [alone.1,alone.2,cut.1,cut.2]
  simp only [true_or,if_true]
  split_ifs
  · rfl
  · refine build_map fun host given => congrArg (withTail .special _) ?_
    exact (congrArg (· ++ rest) port).symm

theorem dropWhile_stops : ∀ c ∈ (chars.dropWhile (!endsAuthority .special ·)).head?, endsAuthority .special c = true := by
  intro c first
  have stop := List.head?_dropWhile_not (!endsAuthority .special ·) chars
  rw [Option.mem_def.mp first] at stop
  simpa using stop

theorem parseAuthority_behind
    (ends : ∀ c ∈ (chars.dropWhile (!endsAuthority .special ·) ++ behind).head?, endsAuthority .special c = true) :
    parseAuthority scheme .special (chars ++ behind) =
      (parseAuthority scheme .special (chars.takeWhile (!endsAuthority .special ·))).map
        (withTail .special · (chars.dropWhile (!endsAuthority .special ·) ++ behind)) := by
  rw [← parseAuthority_append (fun c member => by simpa using List.mem_takeWhile_imp member) ends,← List.append_assoc,
    List.takeWhile_append_dropWhile]

theorem ends_behind (ends : ∀ c ∈ behind.head?, endsAuthority .special c = true) :
    ∀ c ∈ (chars.dropWhile (!endsAuthority .special ·) ++ behind).head?, endsAuthority .special c = true := by
  intro c first
  rw [List.head?_append,Option.mem_def,Option.or_eq_some_iff] at first
  rcases first with here | ⟨-,there⟩
  · exact dropWhile_stops c here
  · exact ends c there

theorem parse_special {text : String} (found : scheme? (significant text) = some (scheme,rest))
    (special : SchemeKind.ofScheme scheme = .special) :
    parse text = parseAuthority scheme .special (rest.dropWhile fun c => c = '/' || c = '\\') := by
  rw [parse,found]
  simp only [special]

theorem parseFile_scheme (parsed : parseFile chars = .ok a) : a.scheme = "file" := by
  unfold parseFile at parsed
  dsimp only at parsed
  split at parsed
  · split at parsed
    · split at parsed
      · cases parsed
        rfl
      · obtain ⟨host,-,made⟩ := bind_ok.mp parsed
        cases made
        rfl
    · cases parsed
      rfl
  · cases parsed
    rfl

theorem parse_scheme {text : String} (parsed : parse text = .ok a) :
    ∃ rest, scheme? (significant text) = some (a.scheme,rest) := by
  unfold parse at parsed
  split at parsed
  · cases parsed
  · next scheme rest found =>
    suffices own : a.scheme = scheme from ⟨rest,own ▸ found⟩
    split at parsed
    · exact (parseAuthority_ok parsed).1
    · next kind =>
      rw [SchemeKind.file_of kind,parseFile_scheme parsed]
    · split at parsed
      · exact (parseAuthority_ok parsed).1
      · cases parsed
        rfl
      · cases parsed
        rfl

theorem opening_suffix (chars : List Char) : opening chars <:+ chars.filter kept := by
  refine ⟨(chars.takeWhile blank).filter kept,?_⟩
  rw [opening,← List.filter_append,List.takeWhile_append_dropWhile]

-- An address whose text has slashes at its end, and the ones whose texts go on with a slash in their place: they agree
-- but for path, query and fragment, which are read of one text and what follows it. Blanks that were passed over at
-- the end are in between now; behind a bare host they would belong to it.
theorem parse_append {text : String} {base core : List Char} {k : Nat} (begins : opening base = core ++ padding text)
    (read : significant text = core ++ List.replicate k '/') (parsed : parse text = .ok a)
    (special : SchemeKind.ofScheme a.scheme = .special) :
    ∃ site tail, site.host.isSome ∧ tail <:+ core ∧ (∀ c ∈ tail.head?, endsAuthority .special c = true) ∧
      a = withTail .special site (tail ++ List.replicate k '/') ∧
      (padding text = [] ∨ tail ≠ [] → ∀ rest, parse (String.ofList (base ++ '/' :: rest)) =
        .ok (withTail .special site (tail ++ (padding text ++ '/' :: ending rest)))) := by
  have slashes : ∀ c ∈ (List.replicate k '/').head?, c = '/' := fun c first =>
    (List.mem_replicate.mp (List.mem_of_head? first)).2
  obtain ⟨rest,found⟩ := parse_scheme parsed
  have reading := parse_special found special
  rw [read] at found
  obtain ⟨own,short,rfl⟩ := scheme?_front found fun c first => slashes c first ▸ by decide
  let slash : Char → Bool := fun c => c = '/' || c = '\\'
  -- An authority that is all slashes has no host.
  have some : (own.dropWhile slash).isEmpty = false := by
    have none : (List.replicate k '/').dropWhile slash = [] :=
      List.dropWhile_eq_nil_iff.mpr fun c member => (List.mem_replicate.mp member).2 ▸ by decide
    rw [Bool.eq_false_iff]
    intro empty
    rw [List.dropWhile_append,if_pos empty,none,parsed] at reading
    cases reading
  have further (behind : List Char) : (own ++ behind).dropWhile slash = own.dropWhile slash ++ behind := by
    rw [List.dropWhile_append,some,if_neg Bool.false_ne_true]
  rw [further,parseAuthority_behind (ends_behind fun c first => slashes c first ▸ by decide),parsed] at reading
  obtain ⟨site,sited,made⟩ := map_ok.mp reading.symm
  refine ⟨site,_,(parseAuthority_ok sited).2,?_,dropWhile_stops,made.symm,?_⟩
  · obtain ⟨name,whole,-⟩ := scheme?_iff.mp short
    have front : own <:+ core := ⟨name ++ [':'],by rw [whole,List.append_assoc]; rfl⟩
    exact ((List.dropWhile_suffix _).trans (List.dropWhile_suffix _)).trans front
  · intro apart rest
    have longer := scheme?_append short (padding text ++ '/' :: ending rest)
    rw [← List.append_assoc,← begins,← significant_append (c := '/') (by decide) base rest] at longer
    rw [parse_special longer special,further,parseAuthority_behind,sited]
    · rfl
    · rcases apart with none | some
      · rw [none,List.nil_append]
        refine ends_behind fun c first => ?_
        cases first
        decide
      · intro c first
        rw [List.head?_append_of_ne_nil _ some] at first
        exact dropWhile_stops c first

-- The path of an address whose text ends in slashes, or in blanks, beside the place that one comes to if the text goes on.
section
variable {a : Address} (hosted : a.host.isSome) (begins : chars.head?.all SchemeKind.special.isSlash = true)
  (unasked : '?' ∉ chars) (whole : '#' ∉ chars)

include hosted begins unasked whole

theorem pathText_slashes (k : Nat) : ∃ n, (withTail .special a (chars ++ List.replicate k '/')).pathText =
    String.ofList (pathChars (directory chars) ++ List.replicate n '/') := by
  have plain : tail (chars ++ List.replicate k '/') = (chars ++ List.replicate k '/',none,none) := by
    refine tail_plain ?_ ?_
    all_goals simp [unasked,whole]
  obtain ⟨n,own⟩ := segments_slashes begins k
  have read : segments .special (tail (chars ++ List.replicate k '/')).1 =
      (directory chars ++ List.replicate n []).map encodedPart := by rw [plain,own]
  refine ⟨n,?_⟩
  rw [pathText_tail hosted read,pathChars_append,pathChars_slashes]

theorem pathText_padded {pad : List Char} (some : chars ≠ []) (padded : pad ≠ []) (blanks : ∀ c ∈ pad, blank c = true) :
    (withTail .special a chars).pathText.length < (pathChars (directory (chars ++ pad))).length := by
  obtain ⟨c,body,rfl⟩ := List.exists_cons_of_ne_nil some
  have plain : ∀ d ∈ pad, SchemeKind.special.isSlash d = false := by
    intro d member
    have slash : d ≠ '/' := blank_sign (by decide) (blanks d member)
    have backslash : d ≠ '\\' := blank_sign (by decide) (blanks d member)
    simp [SchemeKind.isSlash,slash,backslash]
  obtain ⟨d,rest,split⟩ := List.exists_cons_of_ne_nil padded
  have names (part : List Char) : Names (part ++ pad) := by
    have member : d ∈ pad := by simp [split]
    exact names_of_blank (List.mem_append_right part member) (blanks d member)
  obtain ⟨parts,read,longer⟩ := directory_longer begins body padded plain names
  have own : segments .special (tail (c :: body)).1 = parts.map encodedPart := by rw [tail_plain unasked whole,read]
  rw [pathText_tail hosted own,← String.length_toList,String.toList_ofList]
  exact longer

end

end ModelCatalog.Web.Address
