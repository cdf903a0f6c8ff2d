import Std.Data.TreeMap

namespace ModelCatalog.Ordered
open Std

structure Bounded (low high : Int) where
  value : Int
  range : low ≤ value ∧ value ≤ high
deriving DecidableEq

namespace Bounded
variable {low high : Int}

@[ext] theorem ext {a b : Bounded low high} (h : a.value = b.value) : a = b := by
  cases a; cases b; cases h; rfl

instance : Ord (Bounded low high) := ⟨fun a b => compare a.value b.value⟩

private theorem compare_def (a b : Bounded low high) : compare a b = compare a.value b.value := rfl

instance : TransOrd (Bounded low high) where
  eq_swap {a b} := by
    simpa only [compare_def] using OrientedCmp.eq_swap (a := a.value) (b := b.value)
  isLE_trans {a b c} := by
    simpa only [compare_def] using
      @TransCmp.isLE_trans _ (compare : Int → Int → Ordering) _ a.value b.value c.value

instance : LawfulEqOrd (Bounded low high) where
  compare_self {a} := @ReflCmp.compare_self _ (compare : Int → Int → Ordering) _ a.value
  eq_of_compare {a b} h :=
    ext (@LawfulEqCmp.eq_of_compare _ (compare : Int → Int → Ordering) _ a.value b.value h)

def clamp (i : Int) (h : low ≤ high := by decide) : Bounded low high :=
  ⟨max low (min i high),by omega⟩

instance : Max (Bounded low high) := ⟨fun a b => if a.value ≤ b.value then b else a⟩

def ofInt? (i : Int) : Option (Bounded low high) :=
  if h : low ≤ i ∧ i ≤ high then some ⟨i,h⟩ else none

end Bounded

abbrev Signed64 := Bounded (-9223372036854775808) 9223372036854775807

abbrev Unsigned64 := Bounded 0 18446744073709551615

instance : TransOrd Unsigned64 := inferInstance
instance : LawfulEqOrd Unsigned64 := inferInstance

end ModelCatalog.Ordered
