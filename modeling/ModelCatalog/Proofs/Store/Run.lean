import ModelCatalog.Proofs.Ordered.Keyed
import ModelCatalog.Store.DocumentStore

namespace ModelCatalog.Store
open Ordered Files

namespace Contents

theorem answer_unwritten {s next : Contents} {call : Call} {a : call.Answer} (answered : s.answer call = .ok (a,next))
    (silent : call.writes a = false) : next = s := by
  cases call with
  | getModel id => cases answered; rfl
  | listModels => cases answered; rfl
  | insertModel model => cases silent
  | updateModel model => cases silent
  | upsertModel model => cases silent
  | deleteModel id =>
    cases answered
    rw [Keyed.erase_absent silent]
  | deleteAllModels => cases silent
  | retainModels keep =>
    cases answered
    have none : s.models.size - (s.models.filter fun entry => keep.contains entry.1).size = 0 :=
      Decidable.not_not.mp (of_decide_eq_false silent)
    rw [Keyed.filter_size (Nat.sub_eq_zero_iff_le.mp none)]
  | getConnection id => cases answered; rfl
  | listConnections => cases answered; rfl
  | insertConnection connection => cases silent
  | updateConnection connection => cases silent
  | deleteConnection id =>
    cases answered
    rw [Keyed.erase_absent silent]

theorem answer_no_io (s : Contents) (call : Call) : s.answer call ≠ .error .io := by
  cases call <;> simp only [answer] <;> first | (split <;> intro io <;> cases io) | (intro io; cases io)

end Contents

theorem set_cases {items : List α} {new found : α} {i j : Nat} (there : (items.set i new)[j]? = some found) :
    j = i ∧ new = found ∨ j ≠ i ∧ items[j]? = some found := by
  by_cases same : j = i
  · subst same
    rw [List.getElem?_set_self'] at there
    obtain ⟨_,-,equal⟩ := Option.map_eq_some_iff.mp there
    exact .inl ⟨rfl,equal⟩
  · rw [List.getElem?_set_ne (Ne.symm same)] at there
    exact .inr ⟨same,there⟩

theorem set_self {items : List α} {old : α} {i : Nat} (there : items[i]? = some old) (new : α) :
    (items.set i new)[i]? = some new :=
  List.getElem?_set_self (List.getElem?_eq_some_iff.mp there).1

theorem set_map {items : List α} {old new : α} {i : Nat} (f : α → β) (there : items[i]? = some old)
    (same : f new = f old) : (items.set i new).map f = items.map f := by
  obtain ⟨room,rfl⟩ := List.getElem?_eq_some_iff.mp there
  have room' : i < (items.map f).length := by rwa [List.length_map]
  have held : f items[i] = (items.map f)[i] := (List.getElem_map f).symm
  rw [List.map_set,same,held,List.set_getElem_self]

instance : LawfulMonad Script := by
  refine LawfulMonad.mk' Script (fun script => ?_) (fun _ _ => rfl) fun script f g => ?_
  · induction script with
    | done a => rfl
    | perform call next ih => exact congrArg (Script.perform call) (funext ih)
  · induction script with
    | done a => rfl
    | perform call next ih => exact congrArg (Script.perform call) (funext ih)

theorem Script.run_bind (backend : Backend σ) (script : Script α) (f : α → Script β) (s : σ) :
    (script.bind f).run backend s = (f (script.run backend s).1).run backend (script.run backend s).2 := by
  induction script generalizing s with
  | done a => rfl
  | perform call next ih => exact ih _ _

theorem Action.run_bind_run {backend : Backend σ} {action : Action α} {f : α → Action β} (s : σ) :
    (action >>= f).run backend s =
      Script.run backend (ExceptT.bindCont f (action.run backend s).1) (action.run backend s).2 :=
  Script.run_bind backend (ExceptT.run action) (ExceptT.bindCont f) s

theorem Action.run_bind {backend : Backend σ} {action : Action α} {f : α → Action β} {s s' : σ} {a : α}
    (first : action.run backend s = (.ok a,s')) : (action >>= f).run backend s = (f a).run backend s' := by
  rw [run_bind_run,first]
  rfl

theorem Action.run_failed {backend : Backend σ} {action : Action α} {f : α → Action β} {s s' : σ} {e : Error}
    (first : action.run backend s = (.error e,s')) : (action >>= f).run backend s = (.error e,s') := by
  rw [run_bind_run,first]
  rfl

theorem Action.run_map {backend : Backend σ} (f : α → β) (action : Action α) (s : σ) :
    (f <$> action).run backend s = ((action.run backend s).1.map f,(action.run backend s).2) := by
  rw [map_eq_pure_bind,run_bind_run]
  cases (action.run backend s).1 with
  | ok a => rfl
  | error e => rfl

theorem Action.run_ask_congr {backend : Backend σ} {call : Call} {f g : call.Answer → Action α} {s : σ}
    (same : ∀ a, (backend call s).1 = .ok a →
      (f a).run backend (backend call s).2 = (g a).run backend (backend call s).2) :
    (ask call >>= f).run backend s = (ask call >>= g).run backend s := by
  rw [run_bind_run,run_bind_run]
  change Script.run backend (ExceptT.bindCont f ((backend call s).1.mapError Error.storage)) (backend call s).2 =
    Script.run backend (ExceptT.bindCont g ((backend call s).1.mapError Error.storage)) (backend call s).2
  cases answered : (backend call s).1 with
  | ok a => exact same a answered
  | error e => rfl

abbrev Answered := (call : Call) × Except StoreError call.Answer

def transcript (backend : Backend σ) : List Call → σ → List Answered × σ
  | [],s => ([],s)
  | call :: rest,s =>
    let (answer,s) := backend call s
    let (answers,s) := transcript backend rest s
    (⟨call,answer⟩ :: answers,s)

theorem transcript_append (backend : Backend σ) (first second : List Call) (s : σ) :
    transcript backend (first ++ second) s =
      ((transcript backend first s).1 ++ (transcript backend second (transcript backend first s).2).1,
        (transcript backend second (transcript backend first s).2).2) := by
  induction first generalizing s with
  | nil => rfl
  | cons call rest ih => simp [transcript,ih]

theorem transcript_keeps {backend : Backend σ} {P : σ → Prop} (step : ∀ call s, P s → P (backend call s).2)
    (calls : List Call) {s : σ} (start : P s) : P (transcript backend calls s).2 := by
  induction calls generalizing s with
  | nil => exact start
  | cons call rest ih => exact ih (step call s start)

namespace DocumentStore

-- A document on a disk that fails at some calls: each call takes the next failure of a schedule, and
-- nothing fails behind its end.
abbrev Scheduled := List (Option CommitFailure) × DocumentStore × Disk

def failing : Backend Scheduled := fun call (failures,s,d) =>
  let (a,s,d) := answer failures.head?.join call (s,d)
  (a,failures.tail,s,d)

theorem failing_nil (call : Call) (s : DocumentStore) (d : Disk) :
    failing call ([],s,d) = ((reliable call (s,d)).1,[],(reliable call (s,d)).2) := rfl

end DocumentStore
end ModelCatalog.Store
