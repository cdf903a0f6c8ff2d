import ModelCatalog.Text.LowerCase
import ModelCatalog.Proofs.Text.Occurrence

namespace ModelCatalog.Text
namespace LowerCase

-- A sigma between the two texts is the last letter of a word. What stands before it is read backwards.
def EndsWord (before behind : List Char) : Prop := nextIsCased before = true ∧ nextIsCased behind = false

instance (before behind : List Char) : Decidable (EndsWord before behind) :=
  inferInstanceAs (Decidable (_ ∧ _))

def letters (before : List Char) (c : Char) (behind : List Char) : List Char :=
  if c = 'Σ' then [if EndsWord before behind then 'ς' else 'σ'] else ofChar c

def within (before behind : List Char) : List Char → List Char
  | [] => []
  | c :: rest => letters before c (rest ++ behind) ++ within (c :: before) behind rest

def SameEnds (before behind before' behind' part : List Char) : Prop :=
  ∀ first rest, part = first ++ 'Σ' :: rest →
    (EndsWord (first.reverse ++ before) (rest ++ behind) ↔ EndsWord (first.reverse ++ before') (rest ++ behind'))

-- No case rule looks out of a part that has a character to look at on each side of its sigmas.
def Enclosed (part : List Char) : Prop :=
  ∀ first rest, part = first ++ 'Σ' :: rest →
    (∃ c ∈ first, isIgnorable c = false) ∧ ∃ c ∈ rest, isIgnorable c = false

def HasFinal (before chars : List Char) : Prop :=
  'ς' ∈ chars ∨ ∃ first rest, chars = first ++ 'Σ' :: rest ∧ EndsWord (first.reverse ++ before) rest

variable {before before' behind behind' part chars : List Char} {c : Char}

theorem ofList_cons (c : Char) (rest : List Char) :
    ofList before (c :: rest) = letters before c rest ++ ofList (c :: before) rest := by
  have test : (nextIsCased before && !nextIsCased rest) = true ↔ EndsWord before rest := by simp [EndsWord]
  simp only [ofList,letters,test]

theorem ofList_append : ofList before (part ++ behind) =
    within before behind part ++ ofList (part.reverse ++ before) behind := by
  induction part generalizing before with
  | nil => rfl
  | cons c rest ih =>
    rw [List.cons_append,ofList_cons,ih,within,List.append_assoc,List.reverse_cons,List.append_assoc]
    rfl

theorem within_nil : within before [] chars = ofList before chars := by
  have whole : ofList before (chars ++ []) = within before [] chars ++ ofList (chars.reverse ++ before) [] := ofList_append
  rw [List.append_nil,ofList,List.append_nil] at whole
  exact whole.symm

theorem letters_length : (letters before c behind).length = (letters before' c behind').length := by
  unfold letters
  split
  · rfl
  · rfl

theorem letters_eq_iff : letters before c behind = letters before' c behind' ↔
    (c = 'Σ' → (EndsWord before behind ↔ EndsWord before' behind')) := by
  unfold letters
  by_cases sigma : c = 'Σ'
  · by_cases here : EndsWord before behind <;> by_cases there : EndsWord before' behind' <;> simp [sigma,here,there]
  · simp [sigma]

theorem sameEnds_cons {rest : List Char} : SameEnds before behind before' behind' (c :: rest) ↔
    (c = 'Σ' → (EndsWord before (rest ++ behind) ↔ EndsWord before' (rest ++ behind'))) ∧
    SameEnds (c :: before) behind (c :: before') behind' rest := by
  constructor
  · intro same
    refine ⟨?_,?_⟩
    · rintro rfl
      exact same [] rest rfl
    · rintro first after rfl
      have there := same (c :: first) after rfl
      rwa [List.reverse_cons,List.append_assoc,List.append_assoc] at there
  · rintro ⟨here,there⟩ first after split
    cases first with
    | nil =>
      obtain ⟨rfl,rfl⟩ := List.cons.inj split
      exact here rfl
    | cons d first =>
      obtain ⟨rfl,rest⟩ := List.cons.inj split
      rw [List.reverse_cons,List.append_assoc,List.append_assoc]
      exact there first after rest

-- All that a place decides is which sigmas end a word.
theorem within_eq_iff : within before behind part = within before' behind' part ↔
    SameEnds before behind before' behind' part := by
  induction part generalizing before before' with
  | nil => exact ⟨fun _ first _ split => absurd split (by simp),fun _ => rfl⟩
  | cons c rest ih =>
    rw [sameEnds_cons,within,within,← ih,← letters_eq_iff]
    constructor
    · intro same
      exact List.append_inj same letters_length
    · rintro ⟨here,there⟩
      rw [here,there]

instance : Decidable (SameEnds before behind before' behind' part) := decidable_of_iff _ within_eq_iff

-- The case rules look no further than a character that they do not look past.
theorem nextIsCased_append (seen : ∃ c ∈ part, isIgnorable c = false) :
    nextIsCased (part ++ behind) = nextIsCased part := by
  obtain ⟨c,member,shown⟩ := seen
  have found : (part.find? fun d => !isIgnorable d).isSome := by
    rw [List.find?_isSome]
    exact ⟨c,member,by rw [shown]; rfl⟩
  unfold nextIsCased
  rw [List.find?_append,Option.or_of_isSome found]

theorem endsWord_append {before behind : List Char} (left : ∃ c ∈ before, isIgnorable c = false)
    (right : ∃ c ∈ behind, isIgnorable c = false) (further further' : List Char) :
    EndsWord (before ++ further) (behind ++ further') ↔ EndsWord before behind := by
  rw [EndsWord,nextIsCased_append left,nextIsCased_append right,EndsWord]

theorem Enclosed.sameEnds (enclosed : Enclosed part) : SameEnds before behind before' behind' part := by
  intro first rest split
  obtain ⟨⟨c,member,shown⟩,right⟩ := enclosed first rest split
  have left : ∃ c ∈ first.reverse, isIgnorable c = false := ⟨c,List.mem_reverse.mpr member,shown⟩
  rw [endsWord_append left right,endsWord_append left right]

theorem runs_apart : ∀ run ∈ runs, run.2.2.2 ≤ 0x3C2 → run.2.1 - run.1 < 0x3C2 - run.2.2.2 := by decide +kernel

theorem ofNat_final {n : Nat} (final : 'ς' = Char.ofNat n) : n = 0x3C2 := by
  by_cases valid : n.isValidChar
  · rw [Char.ofNat.eq_1 n,dif_pos valid] at final
    exact (congrArg Char.toNat final).symm
  · rw [Char.ofNat.eq_1 n,dif_neg valid] at final
    exact absurd (congrArg Char.toNat final) (by decide)

theorem final_mem_ofChar : 'ς' ∈ ofChar c ↔ c = 'ς' := by
  constructor
  · intro member
    simp only [ofChar] at member
    by_cases ascii : c.toNat < 0x80
    · rw [if_pos ascii,List.mem_singleton] at member
      split at member
      · have value := ofNat_final member
        omega
      · exact member.symm
    · rw [if_neg ascii] at member
      split at member
      · simp at member
      · split at member
        · next first last step target found =>
          have run := runs_apart _ (List.mem_of_find?_eq_some found)
          have inside := List.find?_some found
          have value := ofNat_final (List.mem_singleton.mp member)
          simp only [Bool.and_eq_true,decide_eq_true_eq] at inside
          simp only at run
          omega
        · exact (List.mem_singleton.mp member).symm
  · rintro rfl
    decide +kernel

theorem final_mem_letters : 'ς' ∈ letters before c behind ↔ c = 'ς' ∨ (c = 'Σ' ∧ EndsWord before behind) := by
  unfold letters
  split
  · next sigma =>
    subst sigma
    by_cases ends : EndsWord before behind <;> simp [ends]
  · next other => rw [final_mem_ofChar]; simp [other]

theorem hasFinal_cons {rest : List Char} :
    HasFinal before (c :: rest) ↔ (c = 'ς' ∨ (c = 'Σ' ∧ EndsWord before rest)) ∨ HasFinal (c :: before) rest := by
  constructor
  · rintro (member | ⟨first,after,split,ends⟩)
    · rcases List.mem_cons.mp member with rfl | later
      · exact .inl (.inl rfl)
      · exact .inr (.inl later)
    · cases first with
      | nil =>
        obtain ⟨rfl,rfl⟩ := List.cons.inj split
        exact .inl (.inr ⟨rfl,ends⟩)
      | cons d first =>
        obtain ⟨rfl,rfl⟩ := List.cons.inj split
        rw [List.reverse_cons,List.append_assoc] at ends
        exact .inr (.inr ⟨first,after,rfl,ends⟩)
  · rintro ((rfl | ⟨rfl,ends⟩) | (later | ⟨first,after,rfl,ends⟩))
    · exact .inl List.mem_cons_self
    · exact .inr ⟨[],rest,rfl,ends⟩
    · exact .inl (List.mem_cons_of_mem _ later)
    · refine .inr ⟨c :: first,after,rfl,?_⟩
      rwa [List.reverse_cons,List.append_assoc]

theorem final_mem_ofList : 'ς' ∈ ofList before chars ↔ HasFinal before chars := by
  induction chars generalizing before with
  | nil => simp [ofList,HasFinal]
  | cons c rest ih => rw [ofList_cons,List.mem_append,final_mem_letters,ih,hasFinal_cons]

instance : Decidable (HasFinal before chars) := decidable_of_iff _ final_mem_ofList

end LowerCase

theorem lowerCase_toList (text : String) : (lowerCase text).toList = LowerCase.ofList [] text.toList := String.toList_ofList

end ModelCatalog.Text
