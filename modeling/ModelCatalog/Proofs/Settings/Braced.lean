import ModelCatalog.Settings.Layer

namespace ModelCatalog

-- Characters that, behind blanks as JSON has them, begin with the brace of an object.
inductive Braced : List Char → Prop where
  | brace (rest : List Char) : Braced ('{' :: rest)
  | blank {c : Char} {rest : List Char} (blank : c = ' ' ∨ c = '\t' ∨ c = '\n' ∨ c = '\r') (behind : Braced rest) :
      Braced (c :: rest)

namespace Toml
open Reader

theorem upTo_succ (r : Reader α) (n : Nat) (s : List Char) : upTo r (n + 1) s =
    ((r s >>= fun first => upTo r n first.2 >>= fun others => some (first.1 :: others.1,others.2)) <|>
      some ([],s)) := rfl

-- What stays true of the rest however a reader reads, stays true if it reads any number of times.
theorem upTo_leaves {r : Reader α} {P : List Char → Prop} (step : ∀ {s a rest}, P s → r s = some (a,rest) → P rest)
    (n : Nat) {s rest : List Char} {as : List α} (start : P s) (read : upTo r n s = some (as,rest)) : P rest := by
  induction n generalizing s as with
  | zero =>
    cases read
    exact start
  | succ n ih =>
    rw [upTo_succ] at read
    cases first : r s with
    | none =>
      rw [first] at read
      cases read
      exact start
    | some middle =>
      cases others : upTo r n middle.2 with
      | none =>
        simp only [first,Option.bind_eq_bind,Option.bind_some,others,Option.bind_none] at read
        cases read
        exact start
      | some last =>
        simp only [first,Option.bind_eq_bind,Option.bind_some,others] at read
        cases read
        exact ih (step start first) others

theorem line_braced {s : List Char} {a : Option Statement} {rest : List Char} (braced : Braced s)
    (read : line s = some (a,rest)) : Braced rest := by
  induction braced with
  | brace => cases read
  | @blank c s blank behind ih =>
    rcases blank with rfl | rfl | rfl | rfl
    · cases behind <;> exact ih read
    · cases behind <;> exact ih read
    · cases read
      exact behind
    · cases read

theorem braced_unifyLines {s : List Char} (braced : Braced s) : Braced (unifyLines s) := by
  induction s using unifyLines.induct with
  | case1 => exact braced
  | case2 rest ih =>
    cases braced with
    | blank blank behind =>
      cases behind with
      | blank feed behind => exact .blank feed (ih behind)
  | case3 c rest other ih =>
    rw [unifyLines]
    · cases braced with
      | brace => exact .brace _
      | blank blank behind => exact .blank blank (ih behind)
    · exact other

theorem braced_unmarked {s : List Char} :
    Braced s → (match s with | '\uFEFF' :: rest => rest | chars => chars) = s := by
  rintro (rest | ⟨rfl | rfl | rfl | rfl,behind⟩) <;> rfl

theorem read_braced {text : String} (braced : Braced text.toList) : read text = none := by
  have unread {s : List Char} (braced : Braced s) : whole (many line) s = none := by
    unfold whole
    split
    · next statements all => cases upTo_leaves line_braced s.length braced all
    · rfl
  change (whole (many line) (unifyLines (match text.toList with | '\uFEFF' :: rest => rest | chars => chars)) >>=
    fun statements => ofStatements (statements.filterMap id)) = none
  rw [braced_unmarked braced,unread (braced_unifyLines braced)]
  rfl

end Toml

theorem Layer.read?_braced {text : String} (braced : Braced text.toList) : Layer.read? text = none := by
  rw [Layer.read?,Toml.read_braced braced]
  rfl

end ModelCatalog
