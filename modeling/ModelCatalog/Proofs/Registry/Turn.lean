import ModelCatalog.Proofs.Registry.Replacement
import ModelCatalog.Proofs.Store.Mirror

namespace ModelCatalog.Store

def Script.turn (backend : Backend σ) : Script α → σ → Script α × σ
  | .done a,s => (.done a,s)
  | .perform call next,s => (next (backend call s).1,(backend call s).2)

theorem Mirrors.turn {live : σ → Contents} {backend : Backend σ} {good : σ → Prop} {st : σ}
    (mirrors : Mirrors live backend good) (script : Script α) (order : good st) :
    script.turn memory (live st) = ((script.turn backend st).1,live (script.turn backend st).2) ∧
      good (script.turn backend st).2 := by
  cases script with
  | done a => exact ⟨rfl,order⟩
  | perform call next =>
    refine ⟨?_,mirrors.stays call order⟩
    rw [Script.turn,mirrors.answers call order]
    rfl

end ModelCatalog.Store

namespace ModelCatalog.Registry
open Ordered Store Action

def Operation.target : Operation → Option String
  | .createModel _ form _ => some form.id
  | .updateModel _ id _ _ | .toggleModel _ id _ | .deleteModel _ id => some id
  | _ => none

-- A creation whose id is valid, and what it does when there is no model of the id.
def insertion (c : Caller) (form : ModelForm) (now : Timestamp) : Action ModelRecord := do
  match ← attempt (.insertModel (.ofForm form c.id now)) with
  | .ok r => return r
  | .error (.duplicate id) => throw (.conflict (.model id))
  | .error e => throw (.storage e)

def creation (c : Caller) (form : ModelForm) (now : Timestamp) : Action ModelRecord := do
  if (← ask (.getModel form.id)).isSome then throw (.conflict (.model form.id))
  insertion c form now

def removal (id : String) : Action Unit := do
  if !(← ask (.deleteModel id)) then throw (.notFound (.model id))

-- How far an operation on one model has come, and for how many calls at most it still goes on. It looks the model up,
-- and then makes one call that changes something. No operation ends with an error of the store.
inductive Stage : Nat → (op : Operation) → Script (Except Error op.Result) → Prop where
  | creating (c : Caller) (now : Timestamp) (valid : ValidId form.id) :
      Stage 2 (.createModel c form now) (ExceptT.run (creation c form now))
  | updating (c : Caller) (id : String) (form : ModelForm) (now : Timestamp) :
      Stage 2 (.updateModel c id form now) (ExceptT.run (update c id form now))
  | toggling (c : Caller) (id : String) (now : Timestamp) :
      Stage 2 (.toggleModel c id now) (ExceptT.run (toggle c id now))
  | deleting (c : Caller) (id : String) : Stage 2 (.deleteModel c id) (ExceptT.run (delete c id))
  | inserts (c : Caller) (now : Timestamp) (valid : ValidId form.id) :
      Stage 1 (.createModel c form now) (ExceptT.run (insertion c form now))
  | updates (c : Caller) (form : ModelForm) (now : Timestamp) (r : ModelRecord) :
      Stage 1 (.updateModel c r.id form now) (ExceptT.run (save r))
  | toggles (c : Caller) (now : Timestamp) (r : ModelRecord) : Stage 1 (.toggleModel c r.id now) (ExceptT.run (save r))
  | removes (c : Caller) (id : String) : Stage 1 (.deleteModel c id) (ExceptT.run (removal id))
  | ended {op : Operation} {result : Except Error op.Result} (sound : ∀ cause, result ≠ .error (.storage cause)) :
      Stage n op (.done result)

-- All that one call of an operation can do to some contents, and how far the operation has come behind it.
inductive Turned (s : Contents) :
    Nat → (op : Operation) → Call → Script (Except Error op.Result) → Contents → Prop where
  | looked {op : Operation} {id : String} {script : Script (Except Error op.Result)} (target : op.target = some id)
      (stage : Stage 1 op script) (goes_on : ∀ result, script ≠ .done result) : Turned s 1 op (.getModel id) script s
  | refused {op : Operation} (call : Call) (sound : ∀ cause, e ≠ .storage cause)
      (taken : ∀ c form now, op = .createModel c form now →
        e = .conflict (.model form.id) ∧ s.models.contains form.id = true) : Turned s n op call (.done (.error e)) s
  | inserted (c : Caller) (form : ModelForm) (now : Timestamp) (absent : s.models.contains form.id = false) :
      Turned s n (.createModel c form now) (.insertModel (.ofForm form c.id now)) (.done (.ok (.ofForm form c.id now)))
        { s with models := s.models.insert form.id (.ofForm form c.id now) }
  | updated (c : Caller) (form : ModelForm) (now : Timestamp) (r : ModelRecord)
      (there : s.models.contains r.id = true) :
      Turned s n (.updateModel c r.id form now) (.updateModel r) (.done (.ok r))
        { s with models := s.models.insert r.id r }
  | toggled (c : Caller) (now : Timestamp) (r : ModelRecord) (there : s.models.contains r.id = true) :
      Turned s n (.toggleModel c r.id now) (.updateModel r) (.done (.ok r))
        { s with models := s.models.insert r.id r }
  | removed (c : Caller) (id : String) (there : s.models.contains id = true) :
      Turned s n (.deleteModel c id) (.deleteModel id) (.done (.ok ())) { s with models := s.models.erase id }

section
variable {s s' : Contents} {c : Caller} {form : ModelForm} {now : Timestamp} {id : String} {r : ModelRecord}
  {op : Operation} {call : Call} {script script' : Script (Except Error op.Result)}

theorem attempt_turn (call : Call) (f : Except StoreError call.Answer → Action α) (s : Contents) :
    (ExceptT.run (attempt call >>= f)).turn memory s = (ExceptT.run (f (memory call s).1),(memory call s).2) := rfl

theorem ask_turn {call : Call} {a : call.Answer} (f : call.Answer → Action α) (answered : s.answer call = .ok (a,s')) :
    (ExceptT.run (ask call >>= f)).turn memory s = (ExceptT.run (f a),s') := by
  have granted : memory call s = (.ok a,s') := by rw [memory,answered]
  change (ExceptT.bindCont f ((memory call s).1.mapError Error.storage),(memory call s).2) = _
  rw [granted]
  rfl

theorem asked_turn {call : Call} {a : call.Answer} (f : call.Answer → Action α) (g : α → Action β)
    (answered : s.answer call = .ok (a,s')) :
    (ExceptT.run (ask call >>= f >>= g)).turn memory s = (ExceptT.run (f a >>= g),s') := by
  have granted : memory call s = (.ok a,s') := by rw [memory,answered]
  change (Script.bind (ExceptT.bindCont f ((memory call s).1.mapError Error.storage)) (ExceptT.bindCont g),_) = _
  rw [granted]
  rfl

theorem creation_turn (c : Caller) (form : ModelForm) (now : Timestamp) (s : Contents) :
    (ExceptT.run (creation c form now)).turn memory s =
      (if s.models.contains form.id then .done (.error (.conflict (.model form.id)))
        else ExceptT.run (insertion c form now),s) := by
  rw [creation,ask_turn _ rfl,Keyed.contains]
  split <;> rfl

theorem insertion_turn (c : Caller) (form : ModelForm) (now : Timestamp) (s : Contents) :
    (ExceptT.run (insertion c form now)).turn memory s =
      if s.models.contains form.id then (.done (.error (.conflict (.model form.id))),s)
      else (.done (.ok (.ofForm form c.id now)),
        { s with models := s.models.insert form.id (.ofForm form c.id now) }) := by
  rw [insertion,attempt_turn,memory,Contents.answer,show (ModelRecord.ofForm form c.id now).id = form.id from rfl]
  cases s.models.contains form.id <;> rfl

theorem gated_turn (c : Caller) (id : String) (permission : Permission) (next : ModelRecord → Action α) (s : Contents) :
    (ExceptT.run (gated c id permission next)).turn memory s =
      (match s.models.get? id with
        | none => .done (.error (.notFound (.model id)))
        | some r =>
          match authorize c r permission with
          | .error e => .done (.error e)
          | .ok _ => ExceptT.run (next r),s) := by
  rw [gated,load,asked_turn _ _ rfl]
  cases s.models.get? id with
  | none => rfl
  | some r =>
    change (ExceptT.run (liftM (authorize c r permission) >>= fun _ => next r),s) = (match authorize c r permission with
      | .error e => .done (.error e)
      | .ok _ => ExceptT.run (next r),s)
    cases authorize c r permission <;> rfl

theorem save_turn (r : ModelRecord) (s : Contents) :
    (ExceptT.run (save r)).turn memory s =
      if s.models.contains r.id then (.done (.ok r),{ s with models := s.models.insert r.id r })
      else (.done (.error (.notFound (.model r.id))),s) := by
  rw [save,attempt_turn,memory,Contents.answer]
  cases s.models.contains r.id <;> rfl

theorem removal_turn (id : String) (s : Contents) :
    (ExceptT.run (removal id)).turn memory s =
      if s.models.contains id then (.done (.ok ()),{ s with models := s.models.erase id })
      else (.done (.error (.notFound (.model id))),s) := by
  rw [removal,ask_turn _ rfl]
  cases there : s.models.contains id with
  | true => rfl
  | false =>
    rw [Keyed.erase_absent there]
    rfl

theorem start_stage (one : op.target.isSome = true) : Stage 2 op (ExceptT.run op.action) := by
  cases op with
  | createModel c form now =>
    change Stage 2 (.createModel c form now) (ExceptT.run (liftM (validateId form.id) >>= fun _ => creation c form now))
    cases valid : validateId form.id with
    | ok _ => exact .creating c now (validateId_ok.mp valid)
    | error e =>
      refine .ended fun cause same => ?_
      cases same
      rcases validateId_error valid with ⟨no,-⟩ | ⟨no,-⟩ <;> cases no
  | updateModel c id form now => exact .updating c id form now
  | toggleModel c id now => exact .toggling c id now
  | deleteModel c id => exact .deleting c id
  | _ => cases one

theorem save_open (r : ModelRecord) (result : Except Error ModelRecord) : ExceptT.run (save r) ≠ .done result := by
  intro same
  cases same

theorem gated_turned {next : ModelRecord → Action op.Result} (filed : Filed s) (target : op.target = some id)
    (other : ∀ c form now, op ≠ .createModel c form now)
    (behind : ∀ r, r.id = id → Stage 1 op (ExceptT.run (next r)) ∧ ∀ result, ExceptT.run (next r) ≠ .done result) :
    Turned s 1 op (.getModel id) ((ExceptT.run (gated c id .write next)).turn memory s).1
      ((ExceptT.run (gated c id .write next)).turn memory s).2 := by
  rw [gated_turn]
  cases found : s.models.get? id with
  | none => exact .refused _ (fun _ same => by cases same) fun c form now same => (other c form now same).elim
  | some r =>
    dsimp only
    cases granted : authorize c r .write with
    | error e =>
      obtain ⟨-,rfl⟩ := authorize_error granted
      exact .refused _ (fun _ same => by cases same) fun c form now same => (other c form now same).elim
    | ok _ =>
      obtain ⟨stage,goes_on⟩ := behind r (filed id r found)
      exact .looked target stage goes_on

theorem Stage.turned {n : Nat} (stage : Stage (n + 1) op script) (filed : Filed s) :
    (∃ result, script = .done result) ∨
      ∃ call next, script = .perform call next ∧
        Turned s n op call (script.turn memory s).1 (script.turn memory s).2 := by
  -- Four stages look the model up, the next four make the one call that changes something.
  cases stage with
  | @creating form c now valid =>
    refine .inr ⟨.getModel form.id,_,rfl,?_⟩
    rw [creation_turn]
    cases held : s.models.contains form.id with
    | true => exact .refused _ (fun _ same => by cases same) fun _ _ _ same => by cases same; exact ⟨rfl,held⟩
    | false => exact .looked rfl (.inserts c now valid) fun _ same => by cases same
  | updating c id form now =>
    refine .inr ⟨.getModel id,_,rfl,gated_turned filed rfl (fun _ _ _ same => by cases same) fun r own => ?_⟩
    cases own
    exact ⟨.updates c form now (r.applyForm form now),save_open _⟩
  | toggling c id now =>
    refine .inr ⟨.getModel id,_,rfl,gated_turned filed rfl (fun _ _ _ same => by cases same) fun r own => ?_⟩
    cases own
    exact ⟨.toggles c now { r with isActive := !r.isActive,updatedAt := now },save_open _⟩
  | deleting c id =>
    refine .inr ⟨.getModel id,_,rfl,gated_turned filed rfl (fun _ _ _ same => by cases same) fun _ _ => ?_⟩
    exact ⟨.removes c id,fun _ same => by cases same⟩
  | @inserts form c now valid =>
    refine .inr ⟨.insertModel (.ofForm form c.id now),_,rfl,?_⟩
    rw [insertion_turn]
    cases held : s.models.contains form.id with
    | true => exact .refused _ (fun _ same => by cases same) fun _ _ _ same => by cases same; exact ⟨rfl,held⟩
    | false => exact .inserted c form now held
  | updates c form now r =>
    refine .inr ⟨.updateModel r,_,rfl,?_⟩
    rw [save_turn]
    cases held : s.models.contains r.id with
    | true => exact .updated c form now r held
    | false => exact .refused _ (fun _ same => by cases same) fun _ _ _ same => by cases same
  | toggles c now r =>
    refine .inr ⟨.updateModel r,_,rfl,?_⟩
    rw [save_turn]
    cases held : s.models.contains r.id with
    | true => exact .toggled c now r held
    | false => exact .refused _ (fun _ same => by cases same) fun _ _ _ same => by cases same
  | removes c id =>
    refine .inr ⟨.deleteModel id,_,rfl,?_⟩
    rw [removal_turn]
    cases held : s.models.contains id with
    | true => exact .removed c id held
    | false => exact .refused _ (fun _ same => by cases same) fun _ _ _ same => by cases same
  | ended sound => exact .inl ⟨_,rfl⟩

theorem Turned.stage {n : Nat} (turned : Turned s n op call script s') : Stage n op script := by
  cases turned with
  | looked _ stage _ => exact stage
  | refused _ sound _ => exact .ended fun cause same => sound cause (Except.error.inj same)
  | _ => exact .ended fun _ same => by cases same

theorem Turned.filed {n : Nat} (turned : Turned s n op call script s') (filed : Filed s) : Filed s' := by
  cases turned with
  | looked _ _ _ => exact filed
  | refused _ _ _ => exact filed
  | inserted c form now _ => exact put_filed filed (.ofForm form c.id now)
  | updated _ _ _ r _ => exact put_filed filed r
  | toggled _ _ r _ => exact put_filed filed r
  | removed c id _ =>
    intro other r found
    change (s.models.erase id).get? other = some r at found
    have held : other ≠ id ∧ s.models.get? other = some r := by simpa using found
    exact filed other r held.2

theorem Turned.appears {n : Nat} (turned : Turned s n op call script s') (absent : s.models.contains id = false)
    (there : s'.models.contains id = true) :
    ∃ c form now, form.id = id ∧ call = .insertModel (.ofForm form c.id now) ∧
      (⟨op,script⟩ : (op : Operation) × Script (Except Error op.Result)) =
        ⟨.createModel c form now,.done (.ok (.ofForm form c.id now))⟩ := by
  cases turned with
  | looked _ _ _ => cases absent.symm.trans there
  | refused _ _ _ => cases absent.symm.trans there
  | inserted c form now _ =>
    have own : id = form.id := by simpa [absent] using there
    exact ⟨c,form,now,own.symm,rfl,rfl⟩
  | updated c form now r held =>
    obtain rfl : id = r.id := by simpa [absent] using there
    cases absent.symm.trans held
  | toggled c now r held =>
    obtain rfl : id = r.id := by simpa [absent] using there
    cases absent.symm.trans held
  | removed c other held => simp [absent] at there

theorem Turned.vanishes {n : Nat} (turned : Turned s n op call script s') (there : s.models.contains id = true)
    (absent : s'.models.contains id = false) :
    ∃ c, call = .deleteModel id ∧
      (⟨op,script⟩ : (op : Operation) × Script (Except Error op.Result)) = ⟨.deleteModel c id,.done (.ok ())⟩ := by
  cases turned with
  | looked _ _ _ => cases absent.symm.trans there
  | refused _ _ _ => cases absent.symm.trans there
  | removed c other held =>
    obtain rfl : id = other := by simpa [there] using absent
    exact ⟨c,rfl,rfl⟩
  | _ =>
    rw [Keyed.contains_insert there] at absent
    cases absent

theorem Turned.creates {n : Nat} (turned : Turned s n (.createModel c form now) call (.done (.ok r)) s') :
    call = .insertModel (.ofForm form c.id now) ∧ r = .ofForm form c.id now ∧ s.models.contains form.id = false ∧
      s'.models.contains form.id = true := by
  cases turned with
  | looked _ _ goes_on => exact (goes_on _ rfl).elim
  | inserted c form now absent =>
    exact ⟨rfl,rfl,absent,by simp⟩

theorem Turned.conflicts {n : Nat} {e : Error}
    (turned : Turned s n (.createModel c form now) call (.done (.error e)) s') :
    e = .conflict (.model form.id) ∧ s.models.contains form.id = true := by
  cases turned with
  | looked _ _ goes_on => exact (goes_on _ rfl).elim
  | refused _ _ taken => exact taken c form now rfl

theorem Turned.deletes {n : Nat} (turned : Turned s n (.deleteModel c id) call (.done (.ok ())) s') :
    call = .deleteModel id ∧ s.models.contains id = true ∧ s'.models.contains id = false := by
  cases turned with
  | looked _ _ goes_on => exact (goes_on _ rfl).elim
  | removed c id there =>
    exact ⟨rfl,there,by simp⟩

theorem Stage.sound {n : Nat} {result : Except Error op.Result} (stage : Stage n op (.done result)) :
    ∀ cause, result ≠ .error (.storage cause) := by
  generalize same : Script.done result = script at stage
  cases stage with
  | ended sound =>
    cases same
    exact sound
  | _ => cases same

theorem Stage.finished (stage : Stage 0 op script) : ∃ result, script = .done result := by
  cases stage with
  | ended _ => exact ⟨_,rfl⟩

theorem Stage.misses {n : Nat} {next : Except StoreError ModelRecord → Script (Except Error op.Result)}
    (stage : Stage n op (.perform (.updateModel r) next)) (target : op.target = some id)
    (absent : s.models.contains id = false) :
    (Script.perform (.updateModel r) next).turn memory s = (.done (.error (.notFound (.model id))),s) := by
  generalize same : Script.perform (.updateModel r) next = script at stage ⊢
  cases stage with
  | updates c form now r =>
    cases target
    rw [save_turn,absent]
    rfl
  | toggles c now r =>
    cases target
    rw [save_turn,absent]
    rfl
  | _ => cases same

theorem create_unanswered (c : Caller) (form : ModelForm) (now : Timestamp) {result : Except Error ModelRecord}
    (answered : ExceptT.run (create c form now) = .done result) :
    ∃ e, validateId form.id = .error e ∧ result = .error e := by
  change ExceptT.run (liftM (validateId form.id) >>= fun _ => creation c form now) = _ at answered
  cases valid : validateId form.id with
  | ok _ =>
    rw [valid] at answered
    cases answered
  | error e =>
    rw [valid] at answered
    cases answered
    exact ⟨e,rfl,rfl⟩

end

end ModelCatalog.Registry
