import ModelCatalog.Catalog.Merge
import ModelCatalog.Proofs.Ordered.Keyed
import Mathlib.Data.List.Induction

namespace ModelCatalog
open Ordered

theorem Origin.mem_push {o : Origin} {i j : Nat} : i ∈ (o.push j).indices ↔ i ∈ o.indices ∨ i = j := by
  cases o with
  | single first =>
    by_cases same : first = j
    · simp [push,indices,same]
    · simp [push,indices,same]
  | merged list =>
    by_cases there : j ∈ list
    · simp only [push,indices,List.contains_iff_mem,there,if_true]
      constructor
      · exact .inl
      · rintro (member | rfl)
        · exact member
        · exact there
    · simp [push,indices,there]

theorem Origin.mem_pushAll {o : Origin} {added : List Nat} {i : Nat} :
    i ∈ (added.foldl push o).indices ↔ i ∈ o.indices ∨ i ∈ added := by
  induction added generalizing o with
  | nil => simp
  | cons j rest ih => simp [ih,mem_push,or_assoc]

namespace Catalog

-- An entry of a catalog stands for the entries of one id in a list: it is the first of them except for its
-- origin, which is where any of them comes from.
structure StandsFor (entry : CatalogEntry) (listed : List CatalogEntry) : Prop where
  first : ∃ first, listed.find? (·.id = entry.id) = some first ∧ entry = { first with origin := entry.origin }
  origins : ∀ i, i ∈ entry.origin.indices ↔ ∃ e ∈ listed, e.id = entry.id ∧ i ∈ e.origin.indices

-- What a catalog holds of a list: each entry stands under its id for those of it, and no id is left out.
structure Collects (catalog : Keyed String CatalogEntry) (listed : List CatalogEntry) : Prop where
  stands : ∀ m entry, catalog.get? m = some entry → entry.id = m ∧ StandsFor entry listed
  all : ∀ m, catalog.get? m = none → ∀ e ∈ listed, e.id ≠ m

variable {catalog : Keyed String CatalogEntry} {listed : List CatalogEntry} {entry kept : CatalogEntry}

theorem StandsFor.other (stands : StandsFor kept listed) (different : entry.id ≠ kept.id) :
    StandsFor kept (listed ++ [entry]) := by
  obtain ⟨first,found,same⟩ := stands.first
  refine ⟨⟨first,by rw [List.find?_append,found,Option.some_or],same⟩,fun i => ?_⟩
  rw [stands.origins i]
  constructor
  · rintro ⟨e,member,own,index⟩
    exact ⟨e,List.mem_append_left _ member,own,index⟩
  · rintro ⟨e,member,own,index⟩
    rcases List.mem_append.mp member with member | last
    · exact ⟨e,member,own,index⟩
    · cases List.mem_singleton.mp last
      exact absurd own different

theorem StandsFor.alone (fresh : ∀ e ∈ listed, e.id ≠ entry.id) : StandsFor entry (listed ++ [entry]) := by
  have none : listed.find? (·.id = entry.id) = none :=
    List.find?_eq_none.mpr fun e member => by simpa using fresh e member
  refine ⟨⟨entry,by simp [none],rfl⟩,fun i => ?_⟩
  constructor
  · intro index
    exact ⟨entry,List.mem_append_right _ (List.mem_singleton_self _),rfl,index⟩
  · rintro ⟨e,member,own,index⟩
    rcases List.mem_append.mp member with member | last
    · exact absurd own (fresh e member)
    · cases List.mem_singleton.mp last
      exact index

theorem StandsFor.absorb (stands : StandsFor kept listed) (same : kept.id = entry.id) :
    StandsFor (absorb kept entry) (listed ++ [entry]) := by
  obtain ⟨first,found,copied⟩ := stands.first
  refine ⟨⟨first,?_,?_⟩,fun i => ?_⟩
  · change (listed ++ [entry]).find? (·.id = kept.id) = some first
    rw [List.find?_append,found,Option.some_or]
  · cases kept
    cases first
    cases copied
    rfl
  · change i ∈ (entry.origin.indices.foldl Origin.push kept.origin).indices ↔ ∃ e ∈ listed ++ [entry], e.id = kept.id ∧ _
    rw [Origin.mem_pushAll,stands.origins i]
    constructor
    · rintro (⟨e,member,own,index⟩ | index)
      · exact ⟨e,List.mem_append_left _ member,own,index⟩
      · exact ⟨entry,List.mem_append_right _ (List.mem_singleton_self _),same.symm,index⟩
    · rintro ⟨e,member,own,index⟩
      rcases List.mem_append.mp member with member | last
      · exact .inl ⟨e,member,own,index⟩
      · cases List.mem_singleton.mp last
        exact .inr index

theorem Collects.put (collects : Collects catalog listed) (own : kept.id = entry.id)
    (stands : StandsFor kept (listed ++ [entry])) : Collects (catalog.insert entry.id kept) (listed ++ [entry]) := by
  refine ⟨fun m other found => ?_,fun m none e member => ?_⟩
  · rcases Keyed.get?_insert_cases found with ⟨rfl,rfl⟩ | ⟨different,held⟩
    · exact ⟨own,stands⟩
    · obtain ⟨name,old⟩ := collects.stands m other held
      exact ⟨name,old.other fun same => different (name.symm.trans same.symm)⟩
  · rw [Keyed.get?_insert] at none
    split at none
    · cases none
    · next different =>
      rcases List.mem_append.mp member with member | last
      · exact collects.all m none e member
      · cases List.mem_singleton.mp last
        exact fun same => different same.symm

theorem Collects.add (collects : Collects catalog listed) (entry : CatalogEntry) :
    Collects (Catalog.add catalog entry) (listed ++ [entry]) := by
  unfold Catalog.add
  cases found : catalog.get? entry.id with
  | none => exact collects.put rfl (.alone (collects.all entry.id found))
  | some kept =>
    obtain ⟨own,stands⟩ := collects.stands entry.id kept found
    exact collects.put own (stands.absorb own)

theorem collects (listed : List CatalogEntry) : Collects (listed.foldl add ∅) listed := by
  induction listed using List.reverseRecOn with
  | nil => exact ⟨fun _ _ found => (by cases found),fun _ _ _ member => (List.not_mem_nil member).elim⟩
  | append_singleton listed entry ih =>
    rw [List.foldl_append]
    exact ih.add entry

theorem mem_merge {batches : List (List CatalogEntry)} {e : CatalogEntry} (member : e ∈ merge batches) :
    StandsFor e batches.flatten := by
  obtain ⟨key,stored⟩ := Keyed.mem_values.mp member
  exact ((collects batches.flatten).stands key e (Keyed.mem_get? stored)).2

theorem exists_merge {batches : List (List CatalogEntry)} {x : CatalogEntry} (member : x ∈ batches.flatten) :
    ∃ e ∈ merge batches, e.id = x.id := by
  have whole := collects batches.flatten
  cases found : (batches.flatten.foldl add ∅).get? x.id with
  | none => exact absurd rfl (whole.all x.id found x member)
  | some e => exact ⟨e,Keyed.mem_values.mpr ⟨x.id,Keyed.get?_mem found⟩,(whole.stands x.id e found).1⟩

theorem merge_ascending (batches : List (List CatalogEntry)) : (merge batches).Pairwise fun a b => a.id < b.id := by
  have keyed : ∀ entry ∈ (batches.flatten.foldl add ∅).entries, entry.2.id = entry.1 := fun entry member =>
    ((collects batches.flatten).stands entry.1 entry.2 (Keyed.mem_get? member)).1
  exact (Keyed.values_ascending keyed).imp compareOfLessAndEq_eq_lt.mp

end Catalog
end ModelCatalog
