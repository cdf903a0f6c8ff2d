import ModelCatalog.Proofs.Json.Lawful

namespace ModelCatalog.Json.Layout
open Ordered

-- A layout put together field by field: it is lawful if its names are different, down to the depth that its fields'
-- own containers need.
def Composed (l : Layout τ σ) (valid : τ → Prop) (depth : Nat) : Prop :=
  ∀ floor, depth ≤ floor → l.names.Nodup → l.Lawful valid floor

namespace Composed
variable {α β σ : Type} {c : Codec α} {valid : α → Prop} {rest : Layout β σ} {validRest : β → Prop} {name : String}

theorem done : Composed .done (fun _ => True) 0 := fun _ _ _ => .done

theorem field {f : Field α} (codec : f.codec.Faithful valid k) (leftOut : ∀ a, valid a → f.leftOut a = true → f.missing = .ok a)
    (absent : ∀ a, f.missing = .ok a → valid a ∧ (f.codec.write a).depth ≤ k) (others : Composed rest validRest n) :
    Composed (.field f rest) (fun values => valid values.1 ∧ validRest values.2) (max k n) := by
  intro floor less names
  obtain ⟨own,behind⟩ := Nat.max_le.mp less
  obtain ⟨fresh,distinct⟩ := List.nodup_cons.mp names
  refine .field (codec.congr (fun _ => Iff.rfl) own) fresh leftOut ?_ (others floor behind distinct)
  intro a missing
  obtain ⟨ok,shallow⟩ := absent a missing
  exact ⟨ok,Nat.le_trans shallow own⟩

theorem required (codec : c.Faithful valid k) (others : Composed rest validRest n) :
    Composed (.field (.required name c) rest) (fun values => valid values.1 ∧ validRest values.2) (max k n) :=
  field (f := .required name c) codec (fun _ _ out => by cases out) (fun _ found => by cases found) others

theorem deeper (codec : c.Faithful valid k) (a : α) : c.Faithful valid (max k (c.write a).depth) :=
  codec.congr (fun _ => Iff.rfl) (Nat.le_max_left _ _)

theorem defaulted {a : α} (codec : c.Faithful valid k) (ok : valid a) (others : Composed rest validRest n) :
    Composed (.field (.defaulted name c a) rest) (fun values => valid values.1 ∧ validRest values.2)
      (max (max k (c.write a).depth) n) := by
  refine field (f := .defaulted name c a) (deeper codec a) (fun _ _ out => by cases out) (fun b found => ?_) others
  cases found
  exact ⟨ok,Nat.le_max_right _ _⟩

theorem optional {valid : Option α → Prop} (codec : c.option.Faithful valid k) (ok : valid none)
    (others : Composed rest validRest n) :
    Composed (.field (.optional name c) rest) (fun values => valid values.1 ∧ validRest values.2) (max k n) := by
  refine field (f := .optional name c) codec (fun a _ out => ?_) (fun a found => ?_) others
  · rw [Option.isNone_iff_eq_none.mp out]
    rfl
  · cases found
    exact ⟨ok,Nat.zero_le _⟩

theorem nonempty {a : α} {isEmpty : α → Bool} (codec : c.Faithful valid k) (empty : ∀ b, isEmpty b = true → b = a)
    (ok : valid a) (others : Composed rest validRest n) :
    Composed (.field (.nonempty name c a isEmpty) rest) (fun values => valid values.1 ∧ validRest values.2)
      (max (max k (c.write a).depth) n) := by
  refine field (f := .nonempty name c a isEmpty) (deeper codec a) (fun b _ out => ?_) (fun b found => ?_) others
  · rw [empty b out]
    rfl
  · cases found
    exact ⟨ok,Nat.le_max_right _ _⟩

theorem implied {a : α} (codec : c.Faithful valid k) (ok : valid a) (others : Composed rest validRest n) :
    Composed (.field { name,codec := c,absent := .implied a } rest) (fun values => valid values.1 ∧ validRest values.2)
      (max (max k (c.write a).depth) n) := by
  let f : Field α := { name,codec := c,absent := .implied a }
  refine field (f := f) (deeper codec a) (fun _ _ out => by cases out) (fun b found => ?_) others
  cases found
  exact ⟨ok,Nat.le_max_right _ _⟩

theorem faithful {α τ σ : Type} {l : Layout τ σ} {valid : τ → Prop} {valid' : α → Prop} {parts : α → τ} {make : τ → α}
    {type : String} (composed : l.Composed valid depth) (distinct : l.names.Nodup) (whole : ∀ a, make (parts a) = a)
    (same : ∀ values, parts (make values) = values) (fits : ∀ a, valid (parts a) ↔ valid' a) (less : depth < floor) :
    (Layout.codec type l parts make).Faithful valid' floor :=
  (codec_faithful type (composed depth (Nat.le_refl _) distinct) whole same).congr fits less

end Composed
end ModelCatalog.Json.Layout
