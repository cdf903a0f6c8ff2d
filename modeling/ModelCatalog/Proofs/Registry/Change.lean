import ModelCatalog.Proofs.Model.Import
import ModelCatalog.Proofs.Store.Effects
import ModelCatalog.Registry.Models

namespace ModelCatalog.Registry
open Ordered Store

def ValidId (id : String) : Prop := id ≠ "" ∧ id.length ≤ 256

theorem validateId_ok {id : String} : validateId id = .ok () ↔ ValidId id := by
  unfold validateId ValidId maxModelIdLength
  split
  · next empty => simp [empty]
  · next named => split <;> simp_all

def Sound (s : Contents) : Prop := ∀ id r, s.models.get? id = some r → r.id = id ∧ ValidId id

-- A record that a part of a run has written: its last change is one of the part's clock readings. It keeps the
-- creation time of the record that was there before, and otherwise it was created at the reading for its id.
structure Written (readings : List Timestamp) (reading : String → Option Timestamp) (s : Contents) (id : String)
    (r : ModelRecord) : Prop where
  own : r.id = id
  valid : ValidId id
  changed : r.updatedAt ∈ readings
  kept : ∀ old, s.models.get? id = some old → r.createdAt = old.createdAt
  created : s.models.get? id = none → reading id = some r.createdAt ∧ r.createdAt.value ≤ r.updatedAt.value

-- All that a part of a run does to the models: what is stored behind it was there before, or was written by it.
def Moved (readings : List Timestamp) (reading : String → Option Timestamp) (s s' : Contents) : Prop :=
  ∀ id r, s'.models.get? id = some r → s.models.get? id = some r ∨ Written readings reading s id r

def Grows (s s' : Contents) : Prop := ∀ id, s'.models.get? id = none → s.models.get? id = none

def Shrinks (s s' : Contents) : Prop := ∀ id r, s'.models.get? id = some r → s.models.get? id = some r

section
variable {s s' s'' : Contents} {readings more all : List Timestamp}
  {reading other whole : String → Option Timestamp}

theorem Moved.refl (s : Contents) : Moved readings reading s s := fun _ _ found => .inl found

theorem Moved.sound (moved : Moved readings reading s s') (sound : Sound s) : Sound s' := by
  intro id r found
  rcases moved id r found with old | written
  · exact sound id r old
  · exact ⟨written.own,written.valid⟩

theorem Moved.shrink (moved : Moved readings reading s s') (shrinks : Shrinks s' s'') : Moved readings reading s s'' :=
  fun id r found => moved id r (shrinks id r found)

theorem Shrinks.moved (shrinks : Shrinks s s') : Moved readings reading s s' :=
  fun id r found => .inl (shrinks id r found)

theorem Moved.widen (moved : Moved readings reading s s') (within : readings ⊆ all)
    (same : ∀ id t, ValidId id → reading id = some t → whole id = some t) : Moved all whole s s' := by
  intro id r found
  rcases moved id r found with old | ⟨own,valid,changed,kept,created⟩
  · exact .inl old
  · exact .inr ⟨own,valid,within changed,kept,fun absent =>
      ⟨same id _ valid (created absent).1,(created absent).2⟩⟩

-- One part behind another that removes nothing, with later readings. An id that both could have created was
-- created by the first one.
theorem Moved.trans (first : Moved readings reading s s') (grows : Grows s s') (second : Moved more other s' s'')
    (within : readings ⊆ all) (within' : more ⊆ all)
    (same : ∀ id t, ValidId id → reading id = some t → whole id = some t)
    (same' : ∀ id t, ValidId id → s'.models.get? id = none → other id = some t → whole id = some t)
    (later : ∀ t ∈ readings, ∀ u ∈ more, t.value ≤ u.value) : Moved all whole s s'' := by
  intro id r found
  rcases second id r found with old | ⟨own,valid,changed,kept,created⟩
  · exact first.widen within same id r old
  · refine .inr ⟨own,valid,within' changed,?_,?_⟩
    · intro old before
      cases middle : s'.models.get? id with
      | none => cases (grows id middle).symm.trans before
      | some next =>
        rw [kept next middle]
        rcases first id next middle with unchanged | written
        · cases unchanged.symm.trans before
          rfl
        · exact written.kept old before
    · intro absent
      cases middle : s'.models.get? id with
      | none =>
        obtain ⟨time,order⟩ := created middle
        exact ⟨same' id _ valid middle time,order⟩
      | some next =>
        rw [kept next middle]
        rcases first id next middle with unchanged | written
        · cases absent.symm.trans unchanged
        · obtain ⟨time,order⟩ := written.created absent
          exact ⟨same id _ valid time,Int.le_trans order (later _ written.changed _ changed)⟩

theorem Grows.refl (s : Contents) : Grows s s := fun _ none => none

theorem Grows.trans (first : Grows s s') (second : Grows s' s'') : Grows s s'' := fun id none => first id (second id none)

theorem put_moved {r : ModelRecord} (written : Written readings reading s r.id r) :
    Moved readings reading s { s with models := s.models.insert r.id r } := by
  intro id found same
  rcases Keyed.get?_insert_cases same with ⟨rfl,rfl⟩ | ⟨-,old⟩
  · exact .inr written
  · exact .inl old

theorem put_grows (s : Contents) (r : ModelRecord) : Grows s { s with models := s.models.insert r.id r } := by
  intro id absent
  by_cases own : id = r.id
  · simp [own] at absent
  · simpa [own] using absent

theorem put_contains (s : Contents) (r : ModelRecord) : (s.models.insert r.id r).get? r.id ≠ none := by
  simp

theorem filter_shrinks (s : Contents) (keep : String × ModelRecord → Bool) :
    Shrinks s { s with models := s.models.filter keep } := fun _ _ found =>
  Keyed.mem_get? (Keyed.mem_filter.mp (Keyed.get?_mem found)).1

end

section
open Action
variable {s s' : Contents} {now : Timestamp} {reading : String → Option Timestamp}

theorem insert_put {r a : ModelRecord} (answered : s.answer (.insertModel r) = .ok (a,s')) :
    s.models.get? r.id = none ∧ s' = { s with models := s.models.insert r.id r } := by
  simp only [Contents.answer] at answered
  split at answered
  · cases answered
  · next absent =>
    cases answered
    rw [Keyed.contains,Option.not_isSome_iff_eq_none] at absent
    exact ⟨absent,rfl⟩

theorem update_put {r a : ModelRecord} (answered : s.answer (.updateModel r) = .ok (a,s')) :
    s' = { s with models := s.models.insert r.id r } := by
  simp only [Contents.answer] at answered
  split at answered
  · cases answered
    rfl
  · cases answered

theorem save_ends (r : ModelRecord) :
    (save r).Ends s (fun _ s' => s' = { s with models := s.models.insert r.id r })
      (fun e s' => s' = s ∧ ∀ subject, e ≠ .forbidden subject) := by
  refine ends_bind (ends_attempt (fun a s' answered => ?_) fun e => ?_)
  · exact ends_pure (update_put answered)
  · split
    · next same => cases same
    · exact ends_throw ⟨rfl,fun subject same => by cases same⟩
    · exact ends_throw ⟨rfl,fun subject same => by cases same⟩

theorem new_written (form : ModelForm) (owner : String) (valid : ValidId form.id)
    (absent : s.models.get? form.id = none) (time : reading form.id = some now) :
    Written [now] reading s form.id (.ofForm form owner now) :=
  ⟨rfl,valid,List.mem_singleton_self now,fun _ before => (by cases absent.symm.trans before),
    fun _ => ⟨time,Int.le_refl _⟩⟩

theorem create_moves (c : Caller) (form : ModelForm) (now : Timestamp) :
    Leads (create c form now) s (fun _ => Moved [now] (fun _ => some now) s) (Moved [now] (fun _ => some now) s) := by
  refine leads_bind (leads_lift (fun _ accepted => ?_) (.refl s))
  refine leads_bind (leads_read rfl (leads_guard (.refl s) ?_) (.refl s))
  refine leads_bind (leads_attempt (fun a s' answered => ?_) fun e => ?_)
  · obtain ⟨absent,rfl⟩ := insert_put answered
    exact leads_pure (put_moved (new_written form c.id (validateId_ok.mp accepted) absent rfl))
  · split
    · exact leads_pure (.refl s)
    · exact leads_throw (.refl s)
    · exact leads_throw (.refl s)

theorem load_leads {id : String} {Q : ModelRecord → Contents → Prop} {E : Contents → Prop}
    (found : ∀ r, s.models.get? id = some r → Q r s) (failing : E s) : Leads (load id) s Q E := by
  refine leads_bind (leads_read rfl ?_ failing)
  split
  · next r same => exact leads_pure (found r same)
  · exact leads_throw failing

theorem save_moves {id : String} {stored r : ModelRecord} (sound : Sound s) (found : s.models.get? id = some stored)
    (own : r.id = stored.id) (kept : r.createdAt = stored.createdAt) (changed : r.updatedAt = now) :
    Leads (save r) s (fun _ => Moved [now] reading s) (Moved [now] reading s) := by
  obtain ⟨same,valid⟩ := sound id stored found
  have target : r.id = id := own.trans same
  have written : Written [now] reading s r.id r := by
    refine ⟨rfl,target ▸ valid,List.mem_singleton.mpr changed,fun old before => ?_,fun absent => ?_⟩
    · rw [target,found] at before
      cases before
      exact kept
    · rw [target,found] at absent
      cases absent
  refine (save_ends r).imp (fun _ s' put => ?_) fun _ s' unchanged => ?_
  · cases put
    exact put_moved written
  · cases unchanged.1
    exact .refl s

theorem rewrite_moves (c : Caller) (id : String) (change : ModelRecord → ModelRecord) (sound : Sound s)
    (keeps : ∀ r, (change r).id = r.id ∧ (change r).createdAt = r.createdAt ∧ (change r).updatedAt = now) :
    Leads (load id >>= fun r => liftM (authorize c r .write) >>= fun _ => save (change r)) s
      (fun _ => Moved [now] reading s) (Moved [now] reading s) := by
  refine leads_bind (load_leads (fun stored found => ?_) (.refl s))
  refine leads_bind (leads_lift (fun _ _ => ?_) (.refl s))
  obtain ⟨own,kept,changed⟩ := keeps stored
  exact save_moves sound found own kept changed

theorem update_moves (c : Caller) (id : String) (form : ModelForm) (sound : Sound s) :
    Leads (update c id form now) s (fun _ => Moved [now] reading s) (Moved [now] reading s) :=
  rewrite_moves c id (fun r => r.applyForm form now) sound fun _ => ⟨rfl,rfl,rfl⟩

theorem toggle_moves (c : Caller) (id : String) (sound : Sound s) :
    Leads (toggle c id now) s (fun _ => Moved [now] reading s) (Moved [now] reading s) :=
  rewrite_moves c id (fun r => { r with isActive := !r.isActive,updatedAt := now }) sound fun _ => ⟨rfl,rfl,rfl⟩

theorem upsert_moves {r a : ModelRecord} (valid : ValidId r.id) (changed : r.updatedAt = now) (fresh : r.createdAt = now)
    (time : reading r.id = some now) (answered : s.answer (.upsertModel r) = .ok (a,s')) :
    Moved [now] reading s s' ∧ Grows s s' := by
  cases answered
  cases found : s.models.get? r.id with
  | some stored =>
    refine ⟨put_moved (r := { r with createdAt := stored.createdAt }) ?_,put_grows s _⟩
    refine ⟨rfl,valid,List.mem_singleton.mpr changed,fun old before => ?_,fun absent => ?_⟩
    · cases found.symm.trans before
      rfl
    · cases found.symm.trans absent
  | none =>
    refine ⟨put_moved ⟨rfl,valid,List.mem_singleton.mpr changed,fun old before => ?_,fun _ => ?_⟩,put_grows s r⟩
    · cases found.symm.trans before
    · exact ⟨by rw [fresh,time],by rw [fresh,changed]⟩

theorem syncReplace_moves (c : Caller) (forms : List ModelForm) (now : Timestamp) :
    Leads (syncReplace c forms now) s (fun _ => Moved [now] (fun _ => some now) s) (Moved [now] (fun _ => some now) s) := by
  let moved := Moved [now] (fun _ => some now) s
  have checked : Leads (forms.forM fun form => (validateId form.id : Action Unit)) s
      (fun _ s' => (∀ form ∈ forms, ValidId form.id) ∧ s' = s) moved := by
    refine leads_forM rfl fun form _ s' same => ?_
    cases same
    exact leads_lift (fun _ accepted => ⟨validateId_ok.mp accepted,rfl⟩) (.refl s)
  refine leads_bind (checked.imp (fun _ s' both => ?_) fun _ moved => moved)
  obtain ⟨valid,rfl⟩ := both
  have written : Leads (forms.forM fun form => do
        let _ ← ask (.upsertModel (.ofForm (form.own c.id) c.id now)))
      s' (fun _ s'' => (∀ form ∈ forms, True) ∧ moved s'' ∧ Grows s' s'') moved := by
    refine leads_forM ⟨.refl s',.refl s'⟩ fun form member s'' reached => ?_
    obtain ⟨before,grown⟩ := reached
    refine leads_bind (leads_ask (fun a next answered => leads_pure ⟨trivial,?_⟩) before)
    obtain ⟨later,grows⟩ : Moved [now] (fun _ => some now) s'' next ∧ Grows s'' next :=
      upsert_moves (valid form member) rfl rfl rfl answered
    refine ⟨before.trans grown later (fun _ => id) (fun _ => id) (fun _ _ _ => id) (fun _ _ _ _ => id) ?_,grown.trans grows⟩
    intro t first u second
    rw [List.mem_singleton.mp first,List.mem_singleton.mp second]
  refine leads_bind (written.imp (fun _ s'' reached => ?_) fun _ moved => moved)
  have all : moved s'' := reached.2.1
  refine leads_bind (leads_ask (fun count kept answered => ?_) all)
  cases answered
  have left := all.shrink (filter_shrinks s'' fun entry => (KeySet.ofList (forms.map (·.id))).contains entry.1)
  exact leads_read rfl left left

theorem delete_shrinks (c : Caller) (id : String) :
    Leads (delete c id) s (fun _ => Shrinks s) (Shrinks s) := by
  have none : Shrinks s s := fun _ _ => fun found => found
  refine leads_bind (load_leads (fun stored found => ?_) none)
  refine leads_bind (leads_lift (fun _ _ => ?_) none)
  refine leads_bind (leads_ask (fun removed s' answered => ?_) none)
  cases answered
  have shrinks := filter_shrinks s fun entry => entry.1 ≠ id
  split
  · exact leads_throw shrinks
  · exact leads_pure shrinks

theorem deleteAll_shrinks : Leads deleteAll s (fun _ => Shrinks s) (Shrinks s) := by
  refine leads_ask (fun count s' answered => ?_) fun _ _ => fun found => found
  cases answered
  exact fun id r found => by cases found

end

end ModelCatalog.Registry
