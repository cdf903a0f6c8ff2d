import ModelCatalog.Model.Filter
import Mathlib.Data.List.Nodup

namespace ModelCatalog
open Ordered Std

namespace OrderBy

-- Which of two models comes first: the one with the lower key, and of equal keys the one with the lower id.
def Before : OrderBy → ModelRecord → ModelRecord → Prop
  | .name,a,b => Prod.Lex (· < ·) (· < ·) (a.name,a.id) (b.name,b.id)
  | .updatedAt,a,b => Prod.Lex (· < ·) (· < ·) (a.updatedAt.value,a.id) (b.updatedAt.value,b.id)
  | .createdAt,a,b => Prod.Lex (· < ·) (· < ·) (a.createdAt.value,a.id) (b.createdAt.value,b.id)

def compare : OrderBy → ModelRecord → ModelRecord → Ordering
  | .name => compareLex (compareOn (·.name)) (compareOn (·.id))
  | .updatedAt => compareLex (compareOn (·.updatedAt.value)) (compareOn (·.id))
  | .createdAt => compareLex (compareOn (·.createdAt.value)) (compareOn (·.id))

instance (o : OrderBy) : TransCmp o.compare := by
  cases o <;> exact inferInstanceAs (TransCmp (compareLex _ _))

variable {o : OrderBy} {a b : ModelRecord}

theorem compareLex_lt {κ : Type} [Ord κ] [LawfulEqOrd κ] [LT κ]
    (less : ∀ x y : κ, Ord.compare x y = .lt ↔ x < y) (key : ModelRecord → κ) :
    compareLex (compareOn key) (compareOn (·.id)) a b = .lt ↔
      Prod.Lex (· < ·) (· < ·) (key a,a.id) (key b,b.id) := by
  have byId : Ord.compare a.id b.id = .lt ↔ a.id < b.id := compareOfLessAndEq_eq_lt
  rw [Prod.lex_def,compareLex,Ordering.then_eq_lt,compareOn,compareOn,less,byId,LawfulEqOrd.compare_eq_iff_eq]

theorem compare_lt : o.compare a b = .lt ↔ o.Before a b := by
  cases o with
  | name => exact compareLex_lt (fun _ _ => compareOfLessAndEq_eq_lt) _
  | updatedAt => exact compareLex_lt (fun _ _ => Std.compare_eq_lt) _
  | createdAt => exact compareLex_lt (fun _ _ => Std.compare_eq_lt) _

theorem compare_eq (equal : o.compare a b = .eq) : a.id = b.id := by
  cases o <;> exact LawfulEqOrd.eq_of_compare (Ordering.then_eq_eq.mp equal).2

end OrderBy

def Direction.laid : Direction → List ModelRecord → List ModelRecord
  | .ascending,records => records
  | .descending,records => records.reverse

namespace ModelFilter
variable {f : ModelFilter} {a b : ModelRecord} {records records' : List ModelRecord}

def Before (f : ModelFilter) (a b : ModelRecord) : Prop :=
  match f.direction with
  | .ascending => f.orderBy.Before a b
  | .descending => f.orderBy.Before b a

theorem compare_ascending (up : f.direction = .ascending) : f.compare = f.orderBy.compare := by
  funext a b
  unfold compare
  rw [up]
  cases f.orderBy <;> rfl

theorem compare_descending (down : f.direction = .descending) : f.compare = fun a b => f.orderBy.compare b a := by
  funext a b
  have swap : f.orderBy.compare b a = (f.orderBy.compare a b).swap := OrientedCmp.eq_swap
  rw [swap]
  unfold compare
  rw [down]
  cases f.orderBy <;> rfl

instance : TransCmp f.compare := by
  cases d : f.direction with
  | ascending =>
    rw [compare_ascending d]
    infer_instance
  | descending =>
    rw [compare_descending d]
    exact TransCmp.opposite

theorem compare_lt : f.compare a b = .lt ↔ f.Before a b := by
  unfold Before
  cases d : f.direction with
  | ascending => rw [compare_ascending d,OrderBy.compare_lt]
  | descending => rw [compare_descending d,OrderBy.compare_lt]

theorem compare_eq (equal : f.compare a b = .eq) : a.id = b.id := by
  cases d : f.direction with
  | ascending =>
    rw [compare_ascending d] at equal
    exact OrderBy.compare_eq equal
  | descending =>
    rw [compare_descending d] at equal
    exact (OrderBy.compare_eq equal).symm

-- Models in the order of a filter, which leaves open where equal ones stand.
def Arranged (f : ModelFilter) (records : List ModelRecord) : Prop :=
  records.Pairwise fun a b => (f.compare a b).isLE = true

theorem sort_perm (f : ModelFilter) (records : List ModelRecord) : (f.sort records).Perm records :=
  List.mergeSort_perm _ _

theorem sort_length (f : ModelFilter) (records : List ModelRecord) : (f.sort records).length = records.length :=
  (f.sort_perm records).length_eq

theorem sort_arranged (f : ModelFilter) (records : List ModelRecord) : f.Arranged (f.sort records) := by
  refine List.pairwise_mergeSort (fun _ _ _ => TransCmp.isLE_trans) (fun a b => ?_) records
  have swap : f.compare a b = (f.compare b a).swap := OrientedCmp.eq_swap
  rw [swap]
  cases f.compare b a <;> rfl

theorem Arranged.unique (first : f.Arranged records) (second : f.Arranged records') (same : records.Perm records')
    (distinct : (records.map (·.id)).Nodup) : records = records' := by
  refine same.eq_of_pairwise (fun a b member other less greater => ?_) first second
  have equal : f.compare a b = .eq := OrientedCmp.isLE_antisymm less greater
  exact List.inj_on_of_nodup_map distinct member (same.mem_iff.mpr other) (compare_eq equal)

theorem Arranged.before (arranged : f.Arranged records) (distinct : (records.map (·.id)).Nodup) :
    records.Pairwise f.Before := by
  have apart : records.Pairwise fun a b => a.id ≠ b.id := List.pairwise_map.mp distinct
  refine (arranged.and apart).imp ?_
  rintro a b ⟨less,different⟩
  apply compare_lt.mp
  cases order : f.compare a b with
  | lt => rfl
  | eq => exact absurd (compare_eq order) different
  | gt =>
    rw [order] at less
    cases less

theorem Arranged.reverse (arranged : { f with direction := .ascending }.Arranged records) :
    { f with direction := .descending }.Arranged records.reverse := by
  unfold Arranged
  rw [List.pairwise_reverse,compare_descending rfl]
  unfold Arranged at arranged
  rwa [compare_ascending rfl] at arranged

theorem sort_distinct (f : ModelFilter) (distinct : (records.map (·.id)).Nodup) :
    ((f.sort records).map (·.id)).Nodup :=
  ((f.sort_perm records).map _).nodup_iff.mpr distinct

theorem sort_reversed (f : ModelFilter) (distinct : (records.map (·.id)).Nodup) :
    { f with direction := .descending }.sort records = ({ f with direction := .ascending }.sort records).reverse := by
  refine (sort_arranged _ _).unique (sort_arranged _ _).reverse ?_ (sort_distinct _ distinct)
  exact (sort_perm _ _).trans ((sort_perm _ _).symm.trans (List.reverse_perm _).symm)

theorem sort_laid (f : ModelFilter) (distinct : (records.map (·.id)).Nodup) :
    f.sort records = f.direction.laid ({ f with direction := .ascending }.sort records) := by
  obtain ⟨query,view,tag,orderBy,direction,page⟩ := f
  cases direction with
  | ascending => rfl
  | descending => exact sort_reversed ⟨query,view,tag,orderBy,.descending,page⟩ distinct

-- Sorting arranges models of different ids by key and id, whatever order they come in; down is the reverse of up.
theorem sort_ignores_order (f : ModelFilter) (same : records.Perm records') (distinct : (records.map (·.id)).Nodup) :
    f.sort records = f.sort records' ∧
    { f with direction := .descending }.sort records = ({ f with direction := .ascending }.sort records').reverse ∧
    (f.sort records).Perm records ∧ (f.sort records).Pairwise f.Before := by
  have alike (g : ModelFilter) : g.sort records = g.sort records' :=
    (g.sort_arranged records).unique (g.sort_arranged records')
      ((g.sort_perm records).trans (same.trans (g.sort_perm records').symm)) (g.sort_distinct distinct)
  refine ⟨alike f,?_,f.sort_perm records,(f.sort_arranged records).before (f.sort_distinct distinct)⟩
  rw [sort_reversed f distinct,alike]

def namesake (id : String) : ModelRecord where
  id := id
  owner := "alice"
  baseModelId := some "b"
  name := "Alpha"
  params := {}
  info := {}
  access := none
  isActive := true
  createdAt := ⟨6,by decide⟩
  updatedAt := ⟨6,by decide⟩

theorem namesakes_sorted_alike :
    let byName : ModelFilter := { orderBy := .name }
    let some := [namesake "b",namesake "c",namesake "a"]
    let others := [namesake "a",namesake "b",namesake "c"]
    some.Perm others ∧ (some.map (·.id)).Nodup ∧ byName.sort some = byName.sort others ∧
      { byName with direction := .descending }.sort some =
        ({ byName with direction := .ascending }.sort others).reverse := by
  intro byName some others
  have same : some.Perm others := by decide
  have distinct : (some.map (·.id)).Nodup := by decide
  obtain ⟨alike,reversed,-⟩ := sort_ignores_order byName same distinct
  exact ⟨same,distinct,alike,reversed⟩

end ModelFilter
end ModelCatalog
