import ModelCatalog.Proofs.Json.Lawful

namespace ModelCatalog.Json
open Ordered

theorem Field.taken_required {name : String} {codec : Codec α} {slot : Option α} {a : α} :
    (Field.required name codec).taken slot = .ok a ↔ slot = some a := by
  cases slot with
  | none => exact ⟨fun missing => (by cases missing),fun same => (by cases same)⟩
  | some b => exact ⟨fun same => congrArg some (Except.ok.inj same),fun same => congrArg Except.ok (Option.some.inj same)⟩

theorem Field.taken_defaulted {name : String} {codec : Codec α} {b : α} (slot : Option α) :
    (Field.defaulted name codec b).taken slot = .ok (slot.getD b) := by
  cases slot <;> rfl

-- One field, looked for in one place first and then in another that has a value for it: what the first place holds has
-- to be read, and counts.
theorem Field.taken_or {f : Field α} {slot' : Option α} {a b : α} (first second : Option Tree)
    (filled : f.slot m second = .ok slot') (taken : f.taken slot' = .ok a) :
    (∃ slot, f.slot m (first.or second) = .ok slot ∧ f.taken slot = .ok b) ↔
      ∃ slot, f.slot m first = .ok slot ∧ slot.getD a = b := by
  cases first with
  | none =>
    constructor
    · rintro ⟨slot,again,value⟩
      cases filled.symm.trans again
      cases taken.symm.trans value
      exact ⟨none,rfl,rfl⟩
    · rintro ⟨slot,empty,same⟩
      cases empty
      cases same
      exact ⟨slot',filled,taken⟩
  | some tree =>
    -- What is read fills the slot, so that nothing has to stand for it.
    have read : ∀ slot, f.slot m (some tree) = .ok slot → ∃ c, slot = some c := by
      intro slot own
      obtain ⟨c,-,rfl⟩ := map_ok.mp own
      exact ⟨c,rfl⟩
    constructor
    · rintro ⟨slot,own,value⟩
      obtain ⟨c,rfl⟩ := read slot own
      exact ⟨some c,own,Except.ok.inj value⟩
    · rintro ⟨slot,own,same⟩
      obtain ⟨c,rfl⟩ := read slot own
      exact ⟨some c,own,congrArg Except.ok same⟩

namespace Layout

def told (m : Medium) (look : String → Option Tree) : Layout τ σ → Except Fault σ
  | .done => .ok ()
  | .field f rest => do
    let slot ← f.slot m (look f.name)
    return (slot,← rest.told m look)

def overlaid : Layout τ σ → σ → τ → τ
  | .done,(),() => ()
  | .field _ rest,(slot,slots),(a,values) => (slot.getD a,rest.overlaid slots values)

theorem told_field {f : Field α} {rest : Layout β σ} {look : String → Option Tree} {slot : Option α} {slots : σ} :
    (Layout.field f rest).told m look = .ok (slot,slots) ↔
      f.slot m (look f.name) = .ok slot ∧ rest.told m look = .ok slots := by
  simp only [told,bind_ok,pure_ok]
  constructor
  · rintro ⟨slot,filled,slots,behind,same⟩
    cases same
    exact ⟨filled,behind⟩
  · rintro ⟨filled,behind⟩
    exact ⟨slot,filled,slots,behind,rfl⟩

theorem gathered_told {look : String → Option Tree} : (l : Layout τ σ) → (values : τ) →
    (l.gathered m look = .ok values ↔ ∃ slots, l.told m look = .ok slots ∧ l.settle slots = .ok values)
  | .done,() => ⟨fun _ => ⟨(),rfl,rfl⟩,fun _ => rfl⟩
  | .field f rest,(a,values) => by
    rw [gathered_field,gathered_told rest values]
    constructor
    · rintro ⟨⟨slot,filled,taken⟩,slots,behind,settled⟩
      refine ⟨(slot,slots),told_field.mpr ⟨filled,behind⟩,?_⟩
      rw [settle_field,taken,settled]
      rfl
    · rintro ⟨⟨slot,slots⟩,filled,settled⟩
      obtain ⟨own,behind⟩ := told_field.mp filled
      rw [settle_field,bind_ok] at settled
      obtain ⟨b,taken,left⟩ := settled
      obtain ⟨others,settled,same⟩ := map_ok.mp left
      cases same
      exact ⟨⟨slot,own,taken⟩,slots,behind,settled⟩

theorem gathered_over {look look' : String → Option Tree} : (l : Layout τ σ) → (values values' : τ) →
    l.gathered m look' = .ok values →
    (l.gathered m (fun name => (look name).or (look' name)) = .ok values' ↔
      ∃ slots, l.told m look = .ok slots ∧ l.overlaid slots values = values')
  | .done,(),(),_ => ⟨fun _ => ⟨(),rfl,rfl⟩,fun _ => rfl⟩
  | .field f rest,(a,values),(a',values'),stored => by
    obtain ⟨⟨slot',filled,taken⟩,others⟩ := gathered_field.mp stored
    rw [gathered_field,Field.taken_or (look f.name) (look' f.name) filled taken,
      gathered_over rest values values' others]
    constructor
    · rintro ⟨⟨slot,own,value⟩,slots,behind,laid⟩
      exact ⟨(slot,slots),told_field.mpr ⟨own,behind⟩,Prod.ext value laid⟩
    · rintro ⟨⟨slot,slots⟩,all,same⟩
      obtain ⟨own,behind⟩ := told_field.mp all
      obtain ⟨value,laid⟩ := Prod.mk.inj same
      exact ⟨⟨slot,own,value⟩,slots,behind,laid⟩

end Layout
end ModelCatalog.Json
