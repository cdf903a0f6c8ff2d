import ModelCatalog.Proofs.Registry.Replacement

namespace ModelCatalog.Registry
open Ordered Store Action DocumentStore

-- What a replacement leaves where it ends before it deletes. Every model that was stored is stored, and each record
-- is the one that was there or what the replacement stores for one of its forms.
structure Spared (c : Caller) (now : Timestamp) (forms : List ModelForm) (s s' : Contents) : Prop where
  kept : ∀ id, s.models.contains id = true → s'.models.contains id = true
  known : ∀ id, s'.models.contains id = true → s.models.contains id = true ∨ ∃ form ∈ forms, form.id = id
  records : ∀ id r, s'.models.get? id = some r →
    s.models.get? id = some r ∨ ∃ form ∈ forms, form.id = id ∧ r = replacing c now (s.models.get? id) form
  connections : s'.connections = s.connections
  nextId : s'.nextId = s.nextId

section
variable {c : Caller} {now : Timestamp} {forms sent : List ModelForm} {s : Contents}

theorem written_spared (part : sent <+: forms) : Spared c now forms s (written c now sent s) where
  kept id stored := by
    rw [Keyed.contains,written_get?,Option.isSome_or]
    exact Bool.or_eq_true_iff.mpr (.inr stored)
  known id there := by
    rw [Keyed.contains,written_get?,Option.isSome_or,Option.isSome_map] at there
    rcases Bool.or_eq_true_iff.mp there with supplied | stored
    · obtain ⟨form,member,own⟩ := lastOf_isSome.mp supplied
      exact .inr ⟨form,part.subset member,own⟩
    · exact .inl stored
  records id r found := by
    rw [written_get?] at found
    cases last : lastOf id sent with
    | none =>
      rw [last] at found
      exact .inl found
    | some form =>
      rw [last] at found
      cases found
      obtain ⟨member,own⟩ := lastOf_some last
      exact .inr ⟨form,part.subset member,own,rfl⟩
  connections := rfl
  nextId := rfl

theorem upserts_end (c : Caller) (now : Timestamp) (forms : List ModelForm) (s : Contents) :
    Ends (forms.forM fun form => do let _ ← ask (.upsertModel (.ofForm (form.own c.id) c.id now))) s
      (fun _ s' => s' = written c now forms s) fun _ s' => ∃ sent, sent <+: forms ∧ s' = written c now sent s := by
  induction forms generalizing s with
  | nil => exact ends_pure rfl
  | cons form rest ih =>
    refine ends_bind (ends_bind (ends_ask (fun r s' answered => ?_) fun e => ⟨[],List.nil_prefix,rfl⟩))
    cases (upsert_answer c now form s).symm.trans answered
    refine ends_pure ((ih _).imp (fun _ s' all => ?_) fun e s' ⟨sent,part,left⟩ => ?_)
    · exact all.trans (written_cons c now form rest s)
    · exact ⟨form :: sent,List.cons_prefix_cons.mpr ⟨rfl,part⟩,left.trans (written_cons c now form sent s)⟩

-- A replacement that fails has deleted nothing; only where its last call was refused, which lists what is stored, had
-- it replaced all before.
theorem syncReplace_concludes {live : σ → Contents} {backend : Backend σ} (atomic : Atomic live backend) (c : Caller)
    (forms : List ModelForm) (now : Timestamp) (st : σ) :
    concluding (fun _ _ => True)
      (fun e st' => Spared c now forms (live st) (live st') ∨ live st' = replaced c now forms (live st) ∧
        ∃ last refusal, (backend .listModels last).1 = .error refusal ∧ e = .storage refusal)
      ((syncReplace c forms now).run backend st).1 ((syncReplace c forms now).run backend st).2 := by
  refine concluding_bind ?_
  rw [checked_run]
  cases forms.forM fun form => validateId form.id with
  | error e => exact .inl (written_spared List.nil_prefix)
  | ok _ =>
    refine concluding_bind (((upserts_end c now forms (live st)).conclude atomic).imp (fun _ st' all => ?_) ?_)
    · refine concluding_bind (concluding_ask _ (fun count answered => ?_) fun e refused => ?_)
      · have dropped := atomic.granted answered
        rw [all] at dropped
        have left := (congrArg Prod.snd (Except.ok.inj dropped)).symm
        refine concluding_ask .listModels (fun _ _ => trivial) fun e refused => .inr ⟨?_,_,e,refused,rfl⟩
        exact (atomic.refused refused).trans left
      · rw [atomic.refused refused,all]
        exact .inl (written_spared List.prefix_rfl)
    · rintro e st' ⟨sent,part,left⟩
      rw [left]
      exact .inl (written_spared part)

end

-- A replacement that fails loses no model, whichever write of a form is refused, or the deletion. The listing comes
-- behind the deletion: a store that refuses it has replaced all its models by then.
theorem failed_sync_loses_nothing {live : σ → Contents} {backend : Backend σ} (atomic : Atomic live backend)
    (c : Caller) (forms : List ModelForm) (now : Timestamp) (st : σ) (e : Error) :
    let outcome := (syncReplace c forms now).run backend st
    outcome.1 = .error e →
      ((∀ last, ∃ listed, (backend .listModels last).1 = .ok listed) →
        Spared c now forms (live st) (live outcome.2)) ∧
      (Spared c now forms (live st) (live outcome.2) ∨ live outcome.2 = replaced c now forms (live st) ∧
        ∃ last refusal, (backend .listModels last).1 = .error refusal ∧ e = .storage refusal) := by
  intro outcome failed
  have concluded := syncReplace_concludes atomic c forms now st
  rw [show ((syncReplace c forms now).run backend st).1 = .error e from failed] at concluded
  refine ⟨fun lists => ?_,concluded⟩
  rcases concluded with spared | ⟨-,last,refusal,refused,-⟩
  · exact spared
  · obtain ⟨listed,answered⟩ := lists last
    cases answered.symm.trans refused

def unlisting : Backend Contents := fun call s => match call with
  | .listModels => (.error .io,s)
  | call => memory call s

theorem unlisting_atomic : Atomic id unlisting where
  granted {call s a} answered := by
    cases call with
    | listModels => cases answered
    | _ => exact memory_serves.granted answered
  refused {call s e} refused := by
    cases call with
    | listModels => rfl
    | _ => exact memory_serves.refused refused

-- Nothing but the listing is refused, and a stored model is gone that was not supplied.
theorem unlisted_replacement_loses_model :
    let now : Timestamp := ⟨1700000000,by decide⟩
    let forms : List ModelForm := [{ id := "a",name := "First" }]
    let outcome := (syncReplace (.user "bob") forms now).run unlisting twoOwners
    Atomic id unlisting ∧ outcome.1 = .error (.storage .io) ∧ twoOwners.models.contains "b" = true ∧
      outcome.2.models.contains "b" = false ∧ ¬ Spared (.user "bob") now forms twoOwners outcome.2 := by
  intro now forms outcome
  have stored : twoOwners.models.contains "b" = true := by decide +kernel
  have lost : outcome.2.models.contains "b" = false := by decide +kernel
  refine ⟨unlisting_atomic,by decide +kernel,stored,lost,fun spared => ?_⟩
  rw [spared.kept "b" stored] at lost
  cases lost

-- Bob's second form cannot be moved into place: his first one is written, and his other model is still there.
theorem torn_replacement_keeps_models :
    let now : Timestamp := ⟨1700000000,by decide⟩
    let first : ModelForm := { id := "a",name := "First" }
    let second : ModelForm := { id := "c",name := "Second" }
    let st : Scheduled := ([none,some .rename],⟨["s.json"],twoOwners⟩,⟨∅⟩)
    let outcome := (syncReplace (.user "bob") [first,second] now).run failing st
    outcome.1 = .error (.storage .io) ∧ Spared (.user "bob") now [first,second] twoOwners outcome.2.live ∧
      outcome.2.live.models.get? "a" = some { ModelRecord.ofForm first "bob" now with createdAt := guarded.createdAt } ∧
      outcome.2.live.models.get? "b" = some foreign ∧ outcome.2.live.models.get? "c" = none := by
  intro now first second st outcome
  have failed : outcome.1 = .error (.storage .io) := by decide +kernel
  have spared := (failed_sync_loses_nothing failing_serves.atomic (.user "bob") [first,second] now st _ failed).1
  exact ⟨failed,spared fun last => failing_serves.reads last rfl,by decide +kernel,by decide +kernel,by decide +kernel⟩

end ModelCatalog.Registry
