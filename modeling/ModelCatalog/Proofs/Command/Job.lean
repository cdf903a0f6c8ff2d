import ModelCatalog.Command.Run
import ModelCatalog.Proofs.Store.Effects

namespace ModelCatalog.Command
open Catalog Files Json Store Action

variable {α β : Type} {site : Site} {st : DocumentStore × Disk}

-- What is said of a job's end: one thing of its result where it succeeds, another of the refusal where it fails.
def Job.Ends (job : Job α) (st : DocumentStore × Disk) (Q : α → DocumentStore × Disk → Prop)
    (F : Refusal → DocumentStore × Disk → Prop) : Prop :=
  concluding Q F (job.run.run st).1 (job.run.run st).2

section
variable {job : Job α} {Q : α → DocumentStore × Disk → Prop} {F : Refusal → DocumentStore × Disk → Prop}

theorem Job.Ends.imp {R : α → DocumentStore × Disk → Prop} {G : Refusal → DocumentStore × Disk → Prop}
    (ends : job.Ends st Q F) (weaker : ∀ a st', Q a st' → R a st') (failing : ∀ e st', F e st' → G e st') :
    job.Ends st R G := concluding.imp ends weaker failing

theorem job_pure {a : α} (holds : Q a st) : Job.Ends (pure a) st Q F := holds

theorem job_throw {e : Refusal} (holds : F e st) : Job.Ends (throw e) st Q F := holds

theorem job_bind {f : α → Job β} {R : β → DocumentStore × Disk → Prop}
    (ends : job.Ends st (fun a st' => (f a).Ends st' R F) F) : Job.Ends (job >>= f) st R F := by
  unfold Job.Ends at ends ⊢
  have split : (job >>= f).run.run st = (ExceptT.bindCont f (job.run.run st).1).run (job.run.run st).2 := rfl
  rw [split]
  cases result : (job.run.run st).1 with
  | ok a =>
    rw [result] at ends
    exact ends
  | error e =>
    rw [result] at ends
    exact ends

theorem job_guard {holds : Prop} [Decidable holds] {e : Refusal} {next : PUnit → Job α} (refused : holds → F e st)
    (rest : ¬ holds → (next ()).Ends st Q F) : Job.Ends (if holds then throw e >>= next else next ()) st Q F := by
  split
  · next yes => exact job_bind (job_throw (refused yes))
  · next no => exact rest no

theorem job_act {action : Action α}
    (ends : concluding Q (fun e => F (.failed e)) (action.run (DocumentStore.answer site.failure) st).1
      (action.run (DocumentStore.answer site.failure) st).2) : Job.Ends (act site action) st Q F := by
  change concluding Q F ((action.run (DocumentStore.answer site.failure) st).1.mapError Refusal.failed) _
  cases result : (action.run (DocumentStore.answer site.failure) st).1 with
  | ok a =>
    rw [result] at ends
    exact ends
  | error e =>
    rw [result] at ends
    exact ends

theorem job_get {Q : DocumentStore × Disk → DocumentStore × Disk → Prop} (holds : Q st st) : Job.Ends get st Q F := holds

theorem job_set {Q : PUnit → DocumentStore × Disk → Prop} {st' : DocumentStore × Disk} (holds : Q ⟨⟩ st') :
    Job.Ends (set st') st Q F := holds

theorem Job.Ends.given (ends : job.Ends st Q F) : job.Ends st (fun a st' => (job.run.run st).1 = .ok a ∧ Q a st') F := by
  unfold Job.Ends at ends ⊢
  cases result : (job.run.run st).1 with
  | ok a =>
    rw [result] at ends
    exact ⟨rfl,ends⟩
  | error e =>
    rw [result] at ends
    exact ends

theorem contents_same (site : Site) (file : String) (st : DocumentStore × Disk) :
    Job.Ends (contents site file) st (fun _ st' => st' = st) fun _ st' => st' = st := by
  unfold contents
  split
  · exact job_pure rfl
  · refine job_bind (job_get ?_)
    dsimp only
    split
    · exact job_pure rfl
    · exact job_throw rfl

theorem load_same (site : Site) (codec : Codec α) (file : String) (st : DocumentStore × Disk) :
    Job.Ends (load site codec file) st (fun _ st' => st' = st) fun _ st' => st' = st := by
  refine job_bind ((contents_same site file st).imp (fun _ st' same => ?_) fun _ _ same => same)
  split
  · exact job_pure same
  · exact job_throw same

theorem job_load {codec : Codec α} {file : String}
    (read : ∀ a, ((load site codec file).run.run st).1 = .ok a → Q a st) (refused : ∀ e, F e st) :
    Job.Ends (load site codec file) st Q F := by
  refine (load_same site codec file st).given.imp ?_ ?_
  · rintro a st' ⟨found,rfl⟩
    exact read a found
  · rintro e st' rfl
    exact refused e

theorem job_deliver {file text : String} {Q : Unit → DocumentStore × Disk → Prop}
    (written : ∀ disk, st.2.write (site.locate file) text = some disk → Q () (st.1,disk))
    (refused : F (.fileUnwritten (st.2.writeFault (site.locate file))) st) : Job.Ends (deliver site file text) st Q F := by
  unfold deliver
  refine job_bind (job_get ?_)
  dsimp only
  split
  · next disk found => exact job_set (written disk found)
  · exact job_throw refused

end

theorem ofRefusal_code (refusal : Refusal) : (Outcome.ofRefusal refusal).code ≠ 0 := by
  unfold Outcome.ofRefusal
  split
  · exact Nat.succ_ne_zero 100
  · exact Nat.one_ne_zero

theorem invoke_ends {invocation : Invocation} {settings : Settings} {store : DocumentStore} {P : Outcome → Disk → Prop}
    (found : site.settings invocation.config = .ok settings) (opened : openStore site settings.storePath = .ok store)
    (unstarted : ∀ refusal, P (.ofRefusal refusal) site.disk)
    (executed : ∀ service, Job.Ends (execute site service invocation.caller invocation.command) (store,site.disk)
      (fun report st => P (.ofReport report) st.2) fun refusal st => P (.ofRefusal refusal) st.2) :
    P (invoke site invocation).1 (invoke site invocation).2 := by
  unfold invoke
  simp only [found,opened,bind,Except.bind]
  cases started : Service.start settings.catalog with
  | error e => exact unstarted _
  | ok service =>
    have ends := executed service
    unfold Job.Ends at ends
    simp only [Except.mapError,pure,Except.pure]
    cases done : (execute site service invocation.caller invocation.command).run.run (store,site.disk) with
    | mk result st =>
      rw [done] at ends
      cases result with
      | ok report => exact ends
      | error refusal => exact ends

end ModelCatalog.Command
