import ModelCatalog.Text.Blank
import Mathlib.Data.List.Infix
import Mathlib.Data.List.TakeWhile

namespace ModelCatalog.Text
variable {part whole front behind : List Char}

theorem occursIn_iff : occursIn part whole = true ↔ part <:+: whole := by
  induction whole with
  | nil => simp [occursIn]
  | cons c rest ih => rw [occursIn,Bool.or_eq_true,ih,List.isPrefixOf_iff_prefix,List.infix_cons_iff]

theorem contains_iff {text piece : String} : contains text piece = true ↔ piece.toList <:+: text.toList := occursIn_iff

-- What cannot reach across the place where two texts meet occurs in one of them: the character on one side of that place
-- is none of its own.
theorem infix_behind (apart : ∀ c ∈ behind.head?, c ∉ part) :
    part <:+: front ++ behind ↔ part <:+: front ∨ part <:+: behind := by
  rw [List.infix_append_iff_ne_nil,← or_assoc,or_iff_left]
  rintro ⟨left,right,-,some,rfl,-,begins⟩
  cases right with
  | nil => exact some rfl
  | cons c right =>
    obtain ⟨rest,rfl⟩ := begins
    exact apart c rfl (List.mem_append_right _ List.mem_cons_self)

theorem infix_before (apart : ∀ c ∈ front.getLast?, c ∉ part) :
    part <:+: front ++ behind ↔ part <:+: front ∨ part <:+: behind := by
  rw [List.infix_append_iff_ne_nil,← or_assoc,or_iff_left]
  rintro ⟨left,right,some,-,rfl,ends,-⟩
  obtain ⟨rest,rfl⟩ := ends
  apply apart (left.getLast some)
  · rw [List.getLast?_append_of_ne_nil _ some,List.getLast?_eq_some_getLast some]
    rfl
  · exact List.mem_append_left _ (List.getLast_mem some)

theorem strip_parts (drop : Char → Bool) (chars : List Char) : ∃ left right, chars = left ++ strip drop chars ++ right ∧
    (∀ c ∈ left, drop c = true) ∧ ∀ c ∈ right, drop c = true := by
  let inner := chars.dropWhile drop
  refine ⟨chars.takeWhile drop,(inner.reverse.takeWhile drop).reverse,?_,?_,?_⟩
  · have ends : inner = strip drop chars ++ (inner.reverse.takeWhile drop).reverse := by
      rw [strip,← List.reverse_append,List.takeWhile_append_dropWhile,List.reverse_reverse]
    rw [List.append_assoc,← ends,List.takeWhile_append_dropWhile]
  · intro c member
    exact List.mem_takeWhile_imp member
  · intro c member
    exact List.mem_takeWhile_imp (List.mem_reverse.mp member)

theorem infix_strip {drop : Char → Bool} (kept : ∀ c ∈ part, drop c = false) (some : part ≠ []) :
    part <:+: strip drop whole ↔ part <:+: whole := by
  obtain ⟨left,right,parts,leftDropped,rightDropped⟩ := strip_parts drop whole
  have apart {chars : List Char} (dropped : ∀ c ∈ chars, drop c = true) : ¬ part <:+: chars := by
    intro inside
    obtain ⟨c,rest,rfl⟩ := List.exists_cons_of_ne_nil some
    have there := dropped c (inside.subset List.mem_cons_self)
    rw [kept c List.mem_cons_self] at there
    cases there
  have beside {c : Char} (dropped : drop c = true) : c ∉ part := by
    intro member
    rw [kept c member] at dropped
    cases dropped
  conv => rhs; rw [parts]
  rw [infix_behind fun c first => beside (rightDropped c (List.mem_of_head? first)),
    infix_before fun c last => beside (leftDropped c (List.mem_of_getLast? last))]
  simp only [apart leftDropped,apart rightDropped,false_or,or_false]

theorem infix_filter {keep : Char → Bool} (kept : ∀ c ∈ part, keep c = true) (inside : part <:+: whole) :
    part <:+: whole.filter keep := by
  obtain ⟨front,behind,rfl⟩ := inside
  rw [List.filter_append,List.filter_append,List.filter_eq_self.mpr kept]
  exact ⟨_,_,rfl⟩

end ModelCatalog.Text
