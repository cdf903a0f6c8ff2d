import ModelCatalog.Text.Canonical
import Mathlib.Data.List.Basic

namespace ModelCatalog.Text

def Ascii (chars : List Char) : Prop := ∀ c ∈ chars, c.toNat < 0x80

theorem ascii_iff {chars : List Char} : chars.all (·.toNat < 0x80) = true ↔ Ascii chars := by
  simp [Ascii]

instance (chars : List Char) : Decidable (Ascii chars) := decidable_of_iff _ ascii_iff

theorem Ascii.head {c : Char} {rest : List Char} (ascii : Ascii (c :: rest)) : c.toNat < 0x80 := ascii c List.mem_cons_self

theorem Ascii.tail {c : Char} {rest : List Char} (ascii : Ascii (c :: rest)) : Ascii rest :=
  fun d member => ascii d (List.mem_cons_of_mem _ member)

namespace Canonical
variable {c d : Char} {chars rest : List Char}

-- No table says anything of ASCII: it has no composed character, no mark that composes and none in an order.
theorem composites_beyond : ∀ entry ∈ composites, 0x80 ≤ entry.1 ∧ 0x80 ≤ entry.2.2 := by decide +kernel

theorem classes_beyond : ∀ entry ∈ classes, 0x80 ≤ entry.1 := by decide +kernel

theorem markClass_ascii (ascii : c.toNat < 0x80) : markClass c = 0 := by
  unfold markClass
  split
  · next first last n found =>
    have inside := List.find?_some found
    have beyond := classes_beyond _ (List.mem_of_find?_eq_some found)
    simp only [Bool.and_eq_true,decide_eq_true_eq] at inside beyond
    omega
  · rfl

theorem decompose_ascii (ascii : c.toNat < 0x80) (depth : Nat) : decompose depth c = [c] := by
  cases depth with
  | zero => rfl
  | succ depth =>
    have letters : letters? c = none := by
      rw [letters?]
      exact if_neg fun syllable => absurd syllable.1 (by rw [firstSyllable]; omega)
    rw [decompose,letters]
    simp only
    split
    · next n a b found =>
      have same := List.find?_some found
      have beyond := (composites_beyond _ (List.mem_of_find?_eq_some found)).1
      simp only [decide_eq_true_eq] at same beyond
      omega
    · rfl

theorem compose?_ascii (left : c.toNat < 0x80) (right : d.toNat < 0x80) : compose? c d = none := by
  have syllable : syllable? c d = none := by
    unfold syllable?
    dsimp only
    rw [if_neg fun pair => absurd pair.1 (by rw [firstLetter]; omega),
      if_neg fun pair => absurd pair.1 (by rw [firstSyllable]; omega)]
  rw [compose?,syllable]
  simp only [Option.map_eq_none_iff]
  rw [List.find?_eq_none]
  rintro ⟨n,a,b⟩ member same
  have beyond := (composites_beyond _ member).2
  simp only [Bool.and_eq_true,decide_eq_true_eq] at same beyond
  omega

theorem arrange_run (ascii : Ascii chars) (done : List Char) : chars.foldl (fun (done,marks) c =>
    if markClass c = 0 then (done ++ arrange.sorted marks ++ [c],[]) else (done,marks ++ [c])) (done,[]) =
    (done ++ chars,[]) := by
  induction chars generalizing done with
  | nil => simp
  | cons c rest ih =>
    rw [List.foldl_cons]
    simp only [markClass_ascii ascii.head,if_true]
    rw [ih ascii.tail]
    simp [arrange.sorted]

theorem arrange_ascii (ascii : Ascii chars) : arrange chars = chars := by
  rw [arrange]
  simp only
  rw [arrange_run ascii]
  simp [arrange.sorted]

theorem composeFrom_ascii (ascii : Ascii (c :: rest)) : composeFrom c [] 0 rest = c :: rest := by
  induction rest generalizing c with
  | nil => rfl
  | cons d rest ih =>
    rw [composeFrom]
    simp only [true_or,if_true,compose?_ascii ascii.head ascii.tail.head,markClass_ascii ascii.tail.head]
    rw [ih ascii.tail]
    rfl

theorem ofList_ascii (ascii : Ascii chars) : ofList chars = chars := by
  have parts : chars.flatMap (decompose maxDepth) = chars := by
    rw [List.flatMap_congr fun c member => decompose_ascii (ascii c member) maxDepth,List.flatMap_singleton']
  rw [ofList,parts,arrange_ascii ascii]
  cases chars with
  | nil => rfl
  | cons c rest => exact composeFrom_ascii ascii

end Canonical
end ModelCatalog.Text
