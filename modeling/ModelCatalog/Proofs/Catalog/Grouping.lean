import ModelCatalog.Proofs.Catalog.Origin

namespace ModelCatalog.Catalog
open Ordered

def joined : Option CatalogEntry → CatalogEntry → Option CatalogEntry
  | none,e => some e
  | some kept,e => some (absorb kept e)

section
variable {batches : List (List CatalogEntry)} {e : CatalogEntry}

theorem get?_add (catalog : Keyed String CatalogEntry) (e : CatalogEntry) (m : String) :
    (add catalog e).get? m = if e.id = m then joined (catalog.get? m) e else catalog.get? m := by
  unfold add
  by_cases own : e.id = m
  · subst own
    cases found : catalog.get? e.id with
    | none => simp [joined]
    | some kept => simp [joined]
  · have other : ¬ m = e.id := fun same => own same.symm
    cases found : catalog.get? e.id with
    | none => simp [own,other]
    | some kept => simp [own,other]

-- Id by id a catalog is a fold of its own: entries of other ids do not count.
theorem get?_addAll (catalog : Keyed String CatalogEntry) (listed : List CatalogEntry) (m : String) :
    (listed.foldl add catalog).get? m = (listed.filter (·.id = m)).foldl joined (catalog.get? m) := by
  induction listed generalizing catalog with
  | nil => rfl
  | cons e rest ih =>
    rw [List.foldl_cons,ih,get?_add]
    by_cases own : e.id = m
    · simp [own]
    · simp [own]

theorem joined_some (kept : CatalogEntry) (others : List CatalogEntry) :
    others.foldl joined (some kept) = some (others.foldl absorb kept) := by
  induction others generalizing kept with
  | nil => rfl
  | cons e rest ih => exact ih (absorb kept e)

theorem absorbAll_eq (first : CatalogEntry) (others : List CatalogEntry) : others.foldl absorb first =
    { first with origin := (others.flatMap (·.origin.indices)).foldl Origin.push first.origin } := by
  induction others generalizing first with
  | nil => rfl
  | cons e rest ih =>
    rw [List.foldl_cons,ih,List.flatMap_cons,List.foldl_append]
    rfl

theorem held_id {listed : List CatalogEntry} {m : String} (found : (listed.foldl add ∅).get? m = some e) : e.id = m :=
  ((collects listed).stands m e found).1

theorem mem_merge_iff : e ∈ merge batches ↔
    ∃ first others, batches.flatten.filter (·.id = e.id) = first :: others ∧ e = others.foldl absorb first := by
  have held : (batches.flatten.foldl add ∅).get? e.id = (batches.flatten.filter (·.id = e.id)).foldl joined none :=
    get?_addAll ∅ batches.flatten e.id
  constructor
  · intro member
    obtain ⟨key,stored⟩ := Keyed.mem_values.mp member
    have found := Keyed.mem_get? stored
    cases held_id found
    rw [held] at found
    cases own : batches.flatten.filter (·.id = e.id) with
    | nil =>
      rw [own] at found
      cases found
    | cons first others =>
      rw [own,List.foldl_cons,joined,joined_some] at found
      exact ⟨first,others,rfl,(Option.some.inj found).symm⟩
  · rintro ⟨first,others,own,same⟩
    rw [own,List.foldl_cons,joined,joined_some,← same] at held
    exact Keyed.mem_values.mpr ⟨e.id,Keyed.get?_mem held⟩

theorem merged_from (member : e ∈ merge batches) : ∃ first others,
    first ∈ batches.flatten ∧ first.id = e.id ∧ batches.flatten.filter (·.id = e.id) = first :: others ∧
      e.origin = (others.flatMap (·.origin.indices)).foldl Origin.push first.origin := by
  obtain ⟨first,others,own,same⟩ := mem_merge_iff.mp member
  have kept : first ∈ batches.flatten.filter (·.id = e.id) := by
    rw [own]
    exact List.mem_cons_self
  obtain ⟨listed,named⟩ := List.mem_filter.mp kept
  refine ⟨first,others,listed,of_decide_eq_true named,own,?_⟩
  rw [same,absorbAll_eq]

theorem merged_id (m : String) : m ∈ (merge batches).map (·.id) ↔ m ∈ batches.flatten.map (·.id) := by
  constructor
  · intro member
    obtain ⟨e,merged,rfl⟩ := List.mem_map.mp member
    obtain ⟨first,-,listed,own,-⟩ := merged_from merged
    exact List.mem_map.mpr ⟨first,listed,own⟩
  · intro member
    obtain ⟨x,listed,rfl⟩ := List.mem_map.mp member
    obtain ⟨e,merged,own⟩ := exists_merge listed
    exact List.mem_map.mpr ⟨e,merged,own⟩

theorem merged_indices (distinct : ∀ x ∈ batches.flatten, x.origin.indices.Nodup) (member : e ∈ merge batches) :
    e.origin.indices = ((batches.flatten.filter (·.id = e.id)).flatMap (·.origin.indices)).eraseDups ∧
      e.origin.indices.Nodup := by
  obtain ⟨first,others,listed,-,own,origin⟩ := merged_from member
  have once := distinct first listed
  rw [own,origin,List.flatMap_cons]
  exact ⟨Origin.indices_pushAll_distinct once,Origin.pushAll_distinct once⟩

theorem merged_nonempty (some : ∀ x ∈ batches.flatten, x.origin.indices ≠ []) (member : e ∈ merge batches) :
    e.origin.indices ≠ [] := by
  obtain ⟨first,others,listed,-,-,origin⟩ := merged_from member
  rw [origin,Origin.indices_pushAll]
  intro empty
  exact some first listed (List.append_eq_nil_iff.mp empty).1

theorem merged_bare_or_listed (bare : ∀ x ∈ batches.flatten, ∃ i, x.origin = .single i) (member : e ∈ merge batches) :
    (∃ i, e.origin = .single i) ∨ ∃ i j list, e.origin = .merged (i :: j :: list) ∧ j ≠ i := by
  obtain ⟨first,others,listed,-,-,origin⟩ := merged_from member
  obtain ⟨i,single⟩ := bare first listed
  rw [origin,single]
  exact (Origin.pushAll_single i _).imp (⟨i,·⟩) (⟨i,·⟩)

theorem merged_bare (bare : ∀ x ∈ batches.flatten, ∃ i, x.origin = .single i) (member : e ∈ merge batches) (i : Nat) :
    e.origin = .single i ↔ ∀ x ∈ batches.flatten, x.id = e.id → x.origin = .single i := by
  have origins := (mem_merge member).origins
  constructor
  · intro single x listed own
    obtain ⟨j,other⟩ := bare x listed
    have index : j ∈ e.origin.indices := (origins j).mpr ⟨x,listed,own,by simp [other,Origin.indices]⟩
    rw [single] at index
    rw [other,List.mem_singleton.mp index]
  · intro all
    have only : ∀ j ∈ e.origin.indices, j = i := by
      intro j index
      obtain ⟨x,listed,own,position⟩ := (origins j).mp index
      rw [all x listed own] at position
      exact List.mem_singleton.mp position
    rcases merged_bare_or_listed bare member with ⟨j,single⟩ | ⟨j,k,list,merged,different⟩
    · rw [single,only j (by simp [single,Origin.indices])]
    · have first := only j (by simp [merged,Origin.indices])
      have second := only k (by simp [merged,Origin.indices])
      exact absurd (second.trans first.symm) different

end

def codePoints (text : String) : List Nat := text.toList.map Char.toNat

theorem codePoints_lt {a b : String} (less : a < b) : codePoints a < codePoints b :=
  List.map_lt (fun _ _ => id) less

-- Merging groups the entries of all batches by their ids, which come out in the order of their code points. Of each
-- id there is the first entry, from all the positions that entries of the id have, in the order in which they are
-- met and without repeats. Where all positions are bare, one that all entries of an id share stays bare, and otherwise
-- a list of two or more comes out.
theorem merge_groups_by_id {batches : List (List CatalogEntry)}
    (proper : ∀ x ∈ batches.flatten, x.origin.indices ≠ [] ∧ x.origin.indices.Nodup) :
    (merge batches).Pairwise (fun a b => codePoints a.id < codePoints b.id) ∧
    (∀ m, m ∈ (merge batches).map (·.id) ↔ m ∈ batches.flatten.map (·.id)) ∧
    (∀ e ∈ merge batches,
      (∃ first, batches.flatten.find? (·.id = e.id) = some first ∧ e = { first with origin := e.origin }) ∧
      e.origin.indices = ((batches.flatten.filter (·.id = e.id)).flatMap (·.origin.indices)).eraseDups ∧
      e.origin.indices ≠ [] ∧ e.origin.indices.Nodup) ∧
    ((∀ x ∈ batches.flatten, ∃ i, x.origin = .single i) → ∀ e ∈ merge batches,
      (∀ i, e.origin = .single i ↔ ∀ x ∈ batches.flatten, x.id = e.id → x.origin = .single i) ∧
      ((∃ i, e.origin = .single i) ∨ ∃ list, e.origin = .merged list ∧ 2 ≤ list.length)) := by
  refine ⟨(merge_ascending batches).imp codePoints_lt,merged_id,?_,?_⟩
  · intro e member
    obtain ⟨indices,once⟩ := merged_indices (fun x listed => (proper x listed).2) member
    exact ⟨(mem_merge member).first,indices,merged_nonempty (fun x listed => (proper x listed).1) member,once⟩
  · intro bare e member
    refine ⟨merged_bare bare member,?_⟩
    rcases merged_bare_or_listed bare member with single | ⟨i,j,list,merged,-⟩
    · exact .inl single
    · exact .inr ⟨i :: j :: list,merged,by simp⟩

def offer (id name : String) (index : Nat) : CatalogEntry :=
  { id,name,ownedBy := .ollama,label := "local",origin := .single index,tags := [],raw := .null }

def twoListings : List (List CatalogEntry) :=
  [[offer "m" "First" 0,offer "k" "Own" 0,offer "m" "Again" 0,offer "k" "Own" 0],[offer "m" "Other" 1]]

theorem repeated_models_grouped :
    (∀ x ∈ twoListings.flatten, x.origin.indices ≠ [] ∧ x.origin.indices.Nodup) ∧
    (∀ x ∈ twoListings.flatten, ∃ i, x.origin = .single i) ∧
    (∃ e ∈ merge twoListings, e.id = "k" ∧ e.origin = .single 0) ∧
    ∃ e ∈ merge twoListings, e.id = "m" ∧ e.name = "First" ∧ e.origin.indices = [0,1] := by
  have proper : ∀ x ∈ twoListings.flatten, x.origin.indices ≠ [] ∧ x.origin.indices.Nodup := by decide
  have single : ∀ x ∈ twoListings.flatten, x.origin = .single x.origin.first := by decide
  have bare : ∀ x ∈ twoListings.flatten, ∃ i, x.origin = .single i := fun x listed => ⟨_,single x listed⟩
  obtain ⟨-,ids,entries,origins⟩ := merge_groups_by_id proper
  refine ⟨proper,bare,?_,?_⟩
  · obtain ⟨e,member,own⟩ := List.mem_map.mp ((ids "k").mpr (by decide))
    refine ⟨e,member,own,((origins bare e member).1 0).mpr ?_⟩
    rw [own]
    decide
  · obtain ⟨e,member,own⟩ := List.mem_map.mp ((ids "m").mpr (by decide))
    obtain ⟨⟨first,found,same⟩,indices,-⟩ := entries e member
    rw [own] at found indices
    cases found
    exact ⟨e,member,own,congrArg CatalogEntry.name same,indices⟩

end ModelCatalog.Catalog
