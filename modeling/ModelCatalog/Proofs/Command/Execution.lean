import ModelCatalog.Proofs.Command.Job
import ModelCatalog.Proofs.Registry.Operation

namespace ModelCatalog.Catalog.Service
open Registry Store Action

variable {K : Contract} (s : Service) (w : Surroundings)

theorem aggregate_obeys (reads : Reads K) : Obeys K (s.aggregate w) fun _ => True :=
  obeys_bind (list_connections_obeys reads) fun _ _ => obeys_lift fun _ _ => trivial

theorem aggregateLenient_obeys (reads : Reads K) : Obeys K (s.aggregateLenient w) fun _ => True :=
  obeys_bind (list_connections_obeys reads) fun _ _ => obeys_lift fun _ _ => trivial

theorem connectionModels_obeys (reads : Reads K) (id : ConnectionId) :
    Obeys K (s.connectionModels w id) fun _ => True := by
  refine obeys_bind (locate_connection_obeys reads id) fun place _ => ?_
  refine obeys_bind (obeys_lift (Q := fun _ => True) fun _ _ => trivial) fun _ _ => ?_
  exact obeys_lift fun _ _ => trivial

theorem verify_obeys (reads : Reads K) (id : ConnectionId) : Obeys K (s.verify w id) fun _ => True := by
  refine obeys_bind (get_connection_obeys reads id) fun c _ => ?_
  refine obeys_bind (obeys_lift (Q := fun _ => True) fun _ _ => trivial) fun _ _ => ?_
  exact obeys_lift fun _ _ => trivial

end ModelCatalog.Catalog.Service

namespace ModelCatalog.Command
open Catalog Files Json Registry Store Action

section
variable {K : Contract} {site : Site} {I : DocumentStore × Disk → Prop} {st : DocumentStore × Disk}

theorem job_keeps {action : Action α} {Q : α → Prop} (obeys : action.Obeys K Q) (start : I st)
    (step : ∀ call st, I st → K.admits call → K.grants call (DocumentStore.answer site.failure call st).1 ∧
      I (DocumentStore.answer site.failure call st).2) :
    Job.Ends (act site action) st (fun _ => I) fun _ => I :=
  job_act (concluding_kept (obeys.run start step).2 fun _ _ kept => kept)

theorem job_report {action : Action α} {report : α → Report} (obeys : action.Obeys K fun _ => True) (start : I st)
    (step : ∀ call st, I st → K.admits call → K.grants call (DocumentStore.answer site.failure call st).1 ∧
      I (DocumentStore.answer site.failure call st).2) :
    Job.Ends (act site action >>= fun a => pure (report a)) st (fun _ => I) fun _ => I :=
  job_bind ((job_keeps obeys start step).imp (fun _ _ kept => job_pure kept) fun _ _ kept => kept)

-- A command keeps what every call keeps that it makes, and what writing its export keeps. The replacement of all
-- models is not one of them.
theorem execute_keeps (permits : Permits K fun _ => True)
    (step : ∀ call st, I st → K.admits call → K.grants call (DocumentStore.answer site.failure call st).1 ∧
      I (DocumentStore.answer site.failure call st).2)
    (service : Service) (caller : Caller) (command : Command)
    (deletes : ∀ id, command = .deleteModel id → K.admits (.deleteModel id))
    (clears : command = .deleteAllModels true → caller.isAdmin = true → K.admits .deleteAllModels)
    (replaces : ∀ file, command ≠ .syncModels file true)
    (delivers : ∀ file, command = .exportModels (some file) → ∀ st text disk, I st →
      st.2.write (site.locate file) text = some disk → I (st.1,disk)) (start : I st) :
    Job.Ends (execute site service caller command) st (fun _ => I) fun _ => I := by
  have operated (op : Operation) (removes : op.Removes K) (report : op.Result → Report) :
      (op.Uses fun _ => True) → ∀ st, I st →
        Job.Ends (act site op.action >>= fun a => pure (report a)) st (fun _ => I) fun _ => I :=
    fun uses st start => job_report (operation_obeys permits op uses removes) start step
  cases command with
  | listConnections json => exact operated .listConnections trivial _ trivial st start
  | addConnection form => exact operated (.createConnection form site.now) trivial _ trivial st start
  | updateConnection id patch => exact operated (.updateConnection id patch site.now) trivial _ trivial st start
  | removeConnection id => exact operated (.deleteConnection id) trivial _ trivial st start
  | verifyConnection id => exact job_report (service.verify_obeys _ permits.reads id) start step
  | listConnectionModels id json => exact job_report (service.connectionModels_obeys _ permits.reads id) start step
  | showCatalog lenient json =>
    cases lenient with
    | false => exact job_report (service.aggregate_obeys _ permits.reads) start step
    | true => exact job_report (service.aggregateLenient_obeys _ permits.reads) start step
  | listModels filter json => exact operated (.listModels caller filter) trivial _ trivial st start
  | listBaseModels json => exact operated .listBaseModels trivial _ trivial st start
  | listTags => exact operated .listTags trivial _ trivial st start
  | getModel id => exact operated (.getModel caller id) trivial _ trivial st start
  | toggleModel id => exact operated (.toggleModel caller id site.now) trivial _ trivial st start
  | createModel file =>
    refine job_bind (job_load (fun form _ => ?_) fun _ => start)
    exact operated (.createModel caller form site.now) trivial _ trivial st start
  | updateModel id file =>
    refine job_bind (job_load (fun form _ => ?_) fun _ => start)
    exact operated (.updateModel caller id form site.now) trivial _ trivial st start
  | deleteModel id => exact operated (.deleteModel caller id) (deletes id rfl) _ trivial st start
  | deleteAllModels confirmed =>
    refine job_guard (fun _ => start) fun administrator => job_guard (fun _ => start) fun certain => ?_
    rw [Bool.not_eq_true,Bool.not_eq_false'] at administrator certain
    -- Behind both guards the caller is an administrator and the command is confirmed.
    cases certain
    exact operated .deleteAllModels (clears rfl administrator) _ trivial st start
  | exportModels file =>
    have asked : Job.Ends (act site (exportFor caller)) st (fun _ => I) fun _ => I :=
      job_keeps (operation_obeys permits (.exportModels caller) trivial trivial) start step
    refine job_bind (asked.imp (fun models st' kept => ?_) fun _ _ kept => kept)
    cases file with
    | none => exact job_pure kept
    | some file =>
      refine job_bind (job_deliver (fun disk written => ?_) kept)
      exact job_pure (delivers file rfl st' _ disk kept written)
  | importModels file =>
    refine job_bind (job_load (fun items _ => ?_) fun _ => start)
    exact operated (.importModels caller items site.now) trivial _ trivial st start
  | syncModels file confirmed =>
    refine job_bind (job_load (fun forms _ => ?_) fun _ => start)
    refine job_guard (fun _ => start) fun certain => ?_
    rw [Bool.not_eq_true,Bool.not_eq_false'] at certain
    cases certain
    exact (replaces file rfl).elim

end
end ModelCatalog.Command
