import ModelCatalog.Proofs.Catalog.Merge

namespace ModelCatalog.Origin

-- Of some positions those that an origin does not have yet, each where it comes first.
def unseen (o : Origin) (added : List Nat) : List Nat := (added.removeAll o.indices).eraseDups

section
variable {o o' : Origin} {i : Nat} {added : List Nat}

theorem push_there (there : i ∈ o.indices) : o.push i = o := by
  cases o with
  | single first => simp_all [push,indices]
  | merged list => simp_all [push,indices]

theorem push_new (new : i ∉ o.indices) : o.push i = .merged (o.indices ++ [i]) := by
  cases o with
  | single first =>
    have different : ¬ first = i := by
      intro same
      apply new
      simp [indices,same]
    simp [push,indices,different]
  | merged list => simp_all [push,indices]

theorem unseen_there (there : i ∈ o.indices) : o.unseen (i :: added) = o.unseen added := by
  simp [unseen,List.cons_removeAll,there]

theorem unseen_new (new : i ∉ o.indices) : o.unseen (i :: added) = i :: (o.push i).unseen added := by
  have rest : added.removeAll (o.push i).indices = (added.removeAll o.indices).filter fun j => !j == i := by
    rw [push_new new]
    simp only [List.removeAll,indices,List.filter_filter]
    apply List.filter_congr
    intro j _
    by_cases same : j = i <;> simp [same]
  have first : (i :: added).removeAll o.indices = i :: added.removeAll o.indices := by
    simp [List.cons_removeAll,new]
  rw [unseen,unseen,first,rest,List.eraseDups_cons]

theorem mem_unseen : i ∈ o.unseen added ↔ i ∈ added ∧ i ∉ o.indices := by
  simp [unseen,List.removeAll]

theorem pushAll_seen (seen : o.unseen added = []) : added.foldl push o = o := by
  induction added with
  | nil => rfl
  | cons i rest ih =>
    by_cases there : i ∈ o.indices
    · rw [unseen_there there] at seen
      rw [List.foldl_cons,push_there there,ih seen]
    · rw [unseen_new there] at seen
      cases seen

theorem pushAll_merged (list : List Nat) :
    added.foldl push (.merged list) = .merged (list ++ (merged list).unseen added) := by
  induction added generalizing list with
  | nil => simp [unseen,List.removeAll]
  | cons i rest ih =>
    by_cases there : i ∈ (merged list).indices
    · rw [List.foldl_cons,push_there there,ih,unseen_there there]
    · rw [List.foldl_cons,push_new there,ih,unseen_new there,push_new there]
      simp [indices]

theorem pushAll_unseen (more : o.unseen added ≠ []) : added.foldl push o = .merged (o.indices ++ o.unseen added) := by
  induction added with
  | nil => simp [unseen,List.removeAll] at more
  | cons i rest ih =>
    by_cases there : i ∈ o.indices
    · rw [unseen_there there] at more ⊢
      rw [List.foldl_cons,push_there there,ih more]
    · rw [List.foldl_cons,push_new there,pushAll_merged,unseen_new there,push_new there]
      simp

theorem indices_pushAll : (added.foldl push o).indices = o.indices ++ o.unseen added := by
  by_cases seen : o.unseen added = []
  · rw [pushAll_seen seen,seen,List.append_nil]
  · rw [pushAll_unseen seen]
    rfl

theorem pushAll_single (i : Nat) (added : List Nat) : added.foldl push (.single i) = .single i ∨
    ∃ j list, added.foldl push (.single i) = .merged (i :: j :: list) ∧ j ≠ i := by
  cases more : (single i).unseen added with
  | nil => exact .inl (pushAll_seen more)
  | cons j list =>
    have new : j ∈ (single i).unseen added := by
      rw [more]
      exact List.mem_cons_self
    refine .inr ⟨j,list,?_,fun same => (mem_unseen.mp new).2 (by simp [indices,same])⟩
    rw [pushAll_unseen (by simp [more]),more]
    rfl

-- Positions that were left out as seen are seen in every origin that has the same ones.
theorem pushAll_covered (within : ∀ i ∈ o.indices, i ∈ o'.indices) :
    (o.unseen added).foldl push o' = added.foldl push o' := by
  induction added generalizing o o' with
  | nil => rfl
  | cons i rest ih =>
    by_cases there : i ∈ o.indices
    · rw [unseen_there there,List.foldl_cons,push_there (within i there),ih within]
    · rw [unseen_new there,List.foldl_cons,List.foldl_cons]
      apply ih
      intro j member
      rcases mem_push.mp member with old | rfl
      · exact mem_push.mpr (.inl (within j old))
      · exact mem_push.mpr (.inr rfl)

theorem pushAll_assoc (o o' : Origin) (added : List Nat) :
    added.foldl push (o'.indices.foldl push o) = (added.foldl push o').indices.foldl push o := by
  rw [indices_pushAll,List.foldl_append]
  refine (pushAll_covered fun i member => ?_).symm
  exact mem_pushAll.mpr (.inr member)

theorem push_distinct (distinct : o.indices.Nodup) : (o.push i).indices.Nodup := by
  by_cases there : i ∈ o.indices
  · rwa [push_there there]
  · rw [push_new there]
    change (o.indices ++ [i]).Nodup
    rw [List.nodup_append]
    refine ⟨distinct,by simp,?_⟩
    intro j member k last same
    cases List.mem_singleton.mp last
    exact there (same ▸ member)

theorem pushAll_distinct (distinct : o.indices.Nodup) : (added.foldl push o).indices.Nodup := by
  induction added generalizing o with
  | nil => exact distinct
  | cons i rest ih => exact ih (push_distinct distinct)

theorem eraseDups_distinct {list : List Nat} (distinct : list.Nodup) : list.eraseDups = list := by
  induction list with
  | nil => rfl
  | cons i rest ih =>
    obtain ⟨new,distinct⟩ := List.nodup_cons.mp distinct
    have others : rest.filter (fun j => !j == i) = rest := by
      apply List.filter_eq_self.mpr
      intro j member
      have different : j ≠ i := fun same => new (same ▸ member)
      simp [different]
    rw [List.eraseDups_cons,others,ih distinct]

theorem indices_pushAll_distinct (distinct : o.indices.Nodup) :
    (added.foldl push o).indices = (o.indices ++ added).eraseDups := by
  rw [indices_pushAll,List.eraseDups_append,eraseDups_distinct distinct,unseen]

end
end ModelCatalog.Origin
