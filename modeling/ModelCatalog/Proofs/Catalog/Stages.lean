import ModelCatalog.Proofs.Catalog.Grouping

namespace ModelCatalog.Catalog
open Ordered

theorem absorb_assoc (a b c : CatalogEntry) : absorb (absorb a b) c = absorb a (absorb b c) := by
  simp only [absorb,Origin.pushAll_assoc]

instance : Std.Associative absorb := ⟨absorb_assoc⟩

theorem joinedAll (held : Option CatalogEntry) (entries : List CatalogEntry) :
    (entries.foldl joined none).toList.foldl joined held = entries.foldl joined held := by
  cases entries with
  | nil => rfl
  | cons first others =>
    have one : (first :: others).foldl joined none = some (others.foldl absorb first) := joined_some first others
    rw [one]
    cases held with
    | none => exact one.symm
    | some kept =>
      rw [joined_some,joined_some]
      exact congrArg some List.foldl_assoc.symm

theorem held_keyed (listed : List CatalogEntry) :
    ∀ entry ∈ (listed.foldl add ∅).entries, entry.2.id = entry.1 :=
  fun _ member => held_id (Keyed.mem_get? member)

theorem addAll_values (catalog : Keyed String CatalogEntry) (listed : List CatalogEntry) :
    (listed.foldl add ∅).values.foldl add catalog = listed.foldl add catalog := by
  apply Keyed.ext_get?
  intro m
  rw [get?_addAll,get?_addAll,Keyed.values_key (held_keyed listed) m,get?_addAll]
  exact joinedAll _ _

theorem addAll_parts (catalog : Keyed String CatalogEntry) (parts : List (List (List CatalogEntry))) :
    (parts.map merge).flatten.foldl add catalog = parts.flatten.flatten.foldl add catalog := by
  induction parts generalizing catalog with
  | nil => rfl
  | cons part rest ih =>
    rw [List.map_cons,List.flatten_cons,List.flatten_cons,List.flatten_append,List.foldl_append,List.foldl_append,ih,
      merge,addAll_values]

-- A catalog may be merged in any number of stages: catalogs of parts, merged, are the catalog of the whole, in
-- particular where there are two parts, and where the one part is all there is.
theorem merge_in_stages : (∀ a b, merge (a ++ b) = merge [merge a,merge b]) ∧ (∀ a, merge [merge a] = merge a) ∧
    ∀ parts : List (List (List CatalogEntry)), merge (parts.map merge) = merge parts.flatten := by
  have stages (parts : List (List (List CatalogEntry))) : merge (parts.map merge) = merge parts.flatten :=
    congrArg Keyed.values (addAll_parts ∅ parts)
  refine ⟨?_,?_,stages⟩
  · intro a b
    have two := stages [a,b]
    simp only [List.map_cons,List.map_nil,List.flatten_cons,List.flatten_nil,List.append_nil] at two
    exact two.symm
  · intro a
    have one := stages [a]
    simp only [List.map_cons,List.map_nil,List.flatten_cons,List.flatten_nil,List.append_nil] at one
    exact one

end ModelCatalog.Catalog
