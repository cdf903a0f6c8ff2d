import ModelCatalog.Proofs.Web.Beneath

namespace ModelCatalog.Web
open Address

-- A query that is read as the fields of a form: the parts between its ampersands, each with a name before its first
-- equals sign and a value behind it, and a plus sign in them for a blank.
def plus (c : Char) : Char := if c = '+' then ' ' else c

def fieldText (chars : List Char) : List UInt8 := Percent.decode (chars.map plus)

def field (part : List Char) : List UInt8 × List UInt8 :=
  (fieldText (part.takeWhile (· ≠ '=')),fieldText ((part.dropWhile (· ≠ '=')).drop 1))

def parameters (query : String) : List (List UInt8 × List UInt8) :=
  ((pieces (· = '&') query.toList).filter fun part => !part.isEmpty).map field

def querySign (c : Char) : Bool := Percent.query c || (SchemeKind.special ≠ .other && c = '\'')

def queryChars (chars : List Char) : List Char := Percent.encode querySign chars

theorem Address.withTail_query (a : Address) (chars : List Char) :
    (withTail .special a chars).query = (tail chars).2.1.map fun query => String.ofList (queryChars query) := rfl

section
variable {c sign : Char} {chars name value : List Char}

theorem plus_other (other : c ≠ '+') : plus c = c := if_neg other

theorem digit_plain (digit : (Percent.hex? c).isSome) : c.toNat < 0x80 ∧ querySign c = false := by
  have all : ∀ n < 0x80, (Percent.hex? (Char.ofNat n)).isSome → querySign (Char.ofNat n) = false := by decide +kernel
  have ascii : c.toNat < 0x80 := by
    have digits : ('0' ≤ c ∧ c ≤ '9') ∨ ('a' ≤ c ∧ c ≤ 'f') ∨ ('A' ≤ c ∧ c ≤ 'F') := by
      unfold Percent.hex? at digit
      split_ifs at digit with first second third
      · exact .inl first
      · exact .inr (.inl second)
      · exact .inr (.inr third)
      · cases digit
    simp only [Char.le_def,UInt32.le_iff_toNat_le] at digits
    change c.val.toNat < 128
    rcases digits with ⟨-,below⟩ | ⟨-,below⟩ | ⟨-,below⟩
    all_goals exact Nat.lt_of_le_of_lt below (by decide)
  have own := all c.toNat ascii
  rw [Char.ofNat_toNat] at own
  exact ⟨ascii,own digit⟩

theorem plus_bytes (bytes : List UInt8) : (bytes.flatMap Percent.byte).map plus = bytes.flatMap Percent.byte := by
  conv => rhs; rw [← List.map_id (bytes.flatMap Percent.byte)]
  refine List.map_congr_left fun c member => plus_other ?_
  rintro rfl
  rcases Percent.mem_bytes member with percent | digit
  · cases percent
  · exact absurd digit (by decide)

theorem fieldText_queryChars (chars : List Char) : fieldText (queryChars chars) = fieldText chars := by
  let write (c : Char) : List Char := (queryChars [c]).map plus
  have writes : Percent.Writes plus write := by
    intro c
    by_cases plain : c.toNat < 0x80 ∧ querySign c = false
    · left
      simp [write,queryChars,Percent.encode,plain]
    · right
      have other {d : Char} (standing : d.toNat < 0x80 ∧ querySign d = false) : c ≠ d := by
        rintro rfl
        exact plain standing
      -- A plus sign is never encoded, so what is encoded stands for itself.
      have same : plus c = c := plus_other (other (by decide))
      have coded : queryChars [c] = (utf8 (String.singleton c)).flatMap Percent.byte := by
        simp [queryChars,Percent.encode,plain]
      refine ⟨?_,?_,?_⟩
      · rw [same,← plus_bytes,← coded]
      · rw [same]
        exact other (by decide)
      · rw [same,← Option.not_isSome_iff_eq_none]
        exact fun digit => plain (digit_plain digit)
  have whole : (queryChars chars).map plus = chars.flatMap write := by
    induction chars with
    | nil => rfl
    | cons c rest ih =>
      rw [queryChars,Percent.encode_cons,List.map_append,List.flatMap_cons]
      exact congrArg _ ih
  rw [fieldText,whole,Percent.decode_letters writes]
  rfl

theorem queryChars_sign (plain : sign.toNat < 0x80 ∧ querySign sign = false) (front rest : List Char) :
    queryChars (front ++ sign :: rest) = queryChars front ++ sign :: queryChars rest := by
  have itself : Percent.encode querySign [sign] = [sign] := by simp [Percent.encode,plain]
  rw [queryChars,Percent.encode_append,Percent.encode_cons,itself]
  rfl

theorem not_mem_queryChars (plain : sign ≠ '%' ∧ Percent.hex? sign = none) (absent : sign ∉ chars) :
    sign ∉ queryChars chars := Percent.not_mem_encode plain absent

theorem field_written (unequal : '=' ∉ name) :
    field (queryChars (name ++ '=' :: value)) = (fieldText name,fieldText value) := by
  have cut := upTo_sign (not_mem_queryChars (by decide) unequal) (queryChars value)
  rw [field,queryChars_sign (by decide),cut.1,cut.2,List.drop_one,List.tail_cons,fieldText_queryChars,
    fieldText_queryChars]

theorem parameters_alone (unequal : '=' ∉ name) (apart : '&' ∉ name) (single : '&' ∉ value) :
    parameters (String.ofList (queryChars (name ++ '=' :: value))) = [(fieldText name,fieldText value)] := by
  have whole : '&' ∉ queryChars (name ++ '=' :: value) := not_mem_queryChars (by decide) (by simp [apart,single])
  have part : pieces (· = '&') (queryChars (name ++ '=' :: value)) = [queryChars (name ++ '=' :: value)] := by
    refine pieces_plain fun c member => decide_eq_false ?_
    rintro rfl
    exact whole member
  have some : queryChars (name ++ '=' :: value) ≠ [] := fun none => by simpa using Percent.encode_eq_nil.mp none
  rw [parameters,String.toList_ofList,part,List.filter_cons_of_pos (by simpa using some),List.filter_nil,
    List.map_singleton,field_written unequal]

theorem parameters_first (unequal : '=' ∉ name) (apart : '&' ∉ name) (single : '&' ∉ value) (rest : List Char) :
    parameters (String.ofList (queryChars (name ++ '=' :: (value ++ '&' :: rest)))) =
      (fieldText name,fieldText value) :: parameters (String.ofList (queryChars rest)) := by
  have first := parameters_alone unequal apart single
  rw [parameters,String.toList_ofList] at first ⊢
  rw [← List.cons_append,← List.append_assoc,queryChars_sign (by decide),pieces_slash (by decide),List.filter_append,
    List.map_append,first,parameters,String.toList_ofList]
  rfl

theorem plus_length (chars : List Char) :
    (utf8 (String.ofList (chars.map plus))).length = (utf8 (String.ofList chars)).length := by
  induction chars with
  | nil => rfl
  | cons c rest ih =>
    have own : (utf8 (String.singleton (plus c))).length = (utf8 (String.singleton c)).length := by
      by_cases sign : c = '+'
      · rw [sign]
        decide +kernel
      · rw [plus_other sign]
    rw [List.map_cons,utf8_length_cons,utf8_length_cons,own,ih]

theorem fieldText_whole {part : List Char} (inside : part.Sublist chars)
    (read : fieldText part = utf8 (String.ofList chars)) :
    part = chars ∧ '+' ∉ chars ∧ Percent.Escapeless chars := by
  obtain ⟨shorter,escapeless⟩ := Percent.decode_shrinks (part.map plus)
  change Percent.decode (part.map plus) = _ at read
  rw [read,plus_length] at shorter escapeless
  obtain rfl := sublist_whole inside shorter
  have plain := escapeless (Nat.le_refl _)
  have same : part.map plus = part := by
    rw [Percent.decode_escapeless plain] at read
    exact String.ofList_injective (utf8_injective read)
  rw [same] at plain
  refine ⟨rfl,fun member => ?_,plain⟩
  rw [← same] at member
  obtain ⟨c,-,sign⟩ := List.mem_map.mp member
  by_cases other : c = '+'
  · rw [other] at sign
    exact absurd sign (by decide)
  · exact other ((plus_other other).symm.trans sign)

theorem parameters_iff (unequal : '=' ∉ name) (apart : '&' ∉ name) (inside : value.Sublist chars) :
    parameters (String.ofList (queryChars (name ++ '=' :: value))) = [(fieldText name,utf8 (String.ofList chars))] ↔
      value = chars ∧ '&' ∉ chars ∧ '+' ∉ chars ∧ Percent.Escapeless chars := by
  constructor
  · intro read
    by_cases single : '&' ∈ value
    · obtain ⟨first,rest,rfl,before⟩ := List.eq_append_cons_of_mem single
      rw [parameters_first unequal apart before] at read
      obtain ⟨own,-⟩ := List.cons.inj read
      have smaller := (List.sublist_append_left first ('&' :: rest)).trans inside
      obtain ⟨rfl,-⟩ := fieldText_whole smaller (Prod.mk.inj own).2
      exact (before (inside.subset single)).elim
    · rw [parameters_alone unequal apart single] at read
      obtain ⟨own,-⟩ := List.cons.inj read
      obtain ⟨rfl,unplus,escapeless⟩ := fieldText_whole inside (Prod.mk.inj own).2
      exact ⟨rfl,single,unplus,escapeless⟩
  · rintro ⟨rfl,single,unplus,escapeless⟩
    have same : value.map plus = value := by
      conv => rhs; rw [← List.map_id value]
      refine List.map_congr_left fun c member => plus_other ?_
      rintro rfl
      exact unplus member
    rw [parameters_alone unequal apart single,fieldText,fieldText,same,Percent.decode_escapeless escapeless]

end

structure Verbatim (text : String) : Prop where
  single : '&' ∉ text.toList
  unplus : '+' ∉ text.toList
  unbroken : ∀ c ∈ text.toList, c ∉ ['#','\t','\n','\r']
  visible : ∀ c ∈ text.toList.getLast?, blank c = false
  escapeless : Percent.Escapeless text.toList

def lasting (chars : List Char) : List Char := (ending chars).takeWhile (· ≠ '#')

theorem lasting_sublist (chars : List Char) : (lasting chars).Sublist chars :=
  (List.takeWhile_sublist _).trans (List.filter_sublist.trans (List.rdropWhile_prefix _ _).sublist)

theorem lasting_whole {chars : List Char} : lasting chars = chars ↔
    (∀ c ∈ chars, c ∉ ['#','\t','\n','\r']) ∧ ∀ c ∈ chars.getLast?, blank c = false := by
  have kept_iff (c : Char) : kept c = true ∧ c ≠ '#' ↔ c ∉ ['#','\t','\n','\r'] := by
    simp only [kept,Bool.and_eq_true,decide_eq_true_eq,List.mem_cons,List.not_mem_nil,or_false,not_or,ne_eq]
    tauto
  constructor
  · intro whole
    have outer := List.rdropWhile_prefix blank chars
    have inner : chars.Sublist (chars.rdropWhile blank) := by
      conv => lhs; rw [← whole]
      exact (List.takeWhile_sublist _).trans List.filter_sublist
    have ends := List.rdropWhile_eq_self_iff.mp (outer.sublist.antisymm inner)
    refine ⟨fun c member => ?_,fun c last => ?_⟩
    · rw [← whole] at member
      have stays := List.mem_takeWhile_imp member
      have there := List.mem_filter.mp ((List.takeWhile_sublist _).subset member)
      exact (kept_iff c).mp ⟨there.2,of_decide_eq_true stays⟩
    · obtain ⟨some,rfl⟩ := List.mem_getLast?_eq_getLast last
      simpa using ends some
  · rintro ⟨plain,visible⟩
    have ends : chars.rdropWhile blank = chars := by
      refine List.rdropWhile_eq_self_iff.mpr fun some => ?_
      simp [visible _ (List.getLast?_eq_some_getLast some)]
    have all : chars.filter kept = chars :=
      List.filter_eq_self.mpr fun c member => ((kept_iff c).mpr (plain c member)).1
    rw [lasting,ending,ends,all]
    exact List.takeWhile_eq_self_iff.mpr fun c member => decide_eq_true ((kept_iff c).mpr (plain c member)).2

theorem parameters_verbatim {name : List Char} (unequal : '=' ∉ name) (apart : '&' ∉ name) (text : String) :
    parameters (String.ofList (queryChars (name ++ '=' :: lasting text.toList))) = [(fieldText name,utf8 text)] ↔
      Verbatim text := by
  have read := parameters_iff unequal apart (lasting_sublist text.toList)
  rw [String.ofList_toList,lasting_whole] at read
  rw [read]
  exact ⟨fun ⟨⟨unbroken,visible⟩,single,unplus,escapeless⟩ => ⟨single,unplus,unbroken,visible,escapeless⟩,
    fun plain => ⟨⟨plain.unbroken,plain.visible⟩,plain.single,plain.unplus,plain.escapeless⟩⟩

end ModelCatalog.Web
