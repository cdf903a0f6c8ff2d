import ModelCatalog.Proofs.Command.Gate
import ModelCatalog.Proofs.Registry.Replacement

namespace ModelCatalog.Registry
open Store Action

theorem syncReplace_refused {backend : Backend σ} {st : σ} {forms : List ModelForm} (c : Caller) (now : Timestamp)
    (bad : ∃ form ∈ forms, ∃ e, validateId form.id = .error e) :
    concluding (fun _ _ => False) (fun _ st' => st' = st) ((syncReplace c forms now).run backend st).1
      ((syncReplace c forms now).run backend st).2 := by
  obtain ⟨form,member,e,refused⟩ := bad
  have unfit : ¬ ValidId form.id := fun valid => by cases refused.symm.trans (validateId_ok.mpr valid)
  obtain ⟨_,-,_,-,outcome⟩ := syncReplace_invalid backend c now st ⟨form,member,unfit⟩
  rw [outcome]
  rfl

end ModelCatalog.Registry

namespace ModelCatalog
open Catalog Files Json Registry Store Action DocumentStore

def Site.text? (site : Site) (file : String) : Option String :=
  if file = "-" then some site.input else (site.disk.read (site.locate file)).toOption

def Site.said? (site : Site) (codec : Codec α) (file : String) : Option α :=
  (site.text? file).bind fun text => (codec.readText text).toOption

namespace Command

theorem contents_text (site : Site) (file : String) (store : DocumentStore) :
    Job.Ends (contents site file) (store,site.disk)
      (fun text st' => site.text? file = some text ∧ st' = (store,site.disk))
      fun _ st' => site.text? file = none ∧ st' = (store,site.disk) := by
  unfold contents Site.text?
  split
  · exact job_pure ⟨rfl,rfl⟩
  · refine job_bind (job_get ?_)
    dsimp only
    split
    · next text found => exact job_pure ⟨by rw [found]; rfl,rfl⟩
    · next e found => exact job_throw ⟨by rw [found]; rfl,rfl⟩

theorem load_said (site : Site) (codec : Codec α) (file : String) (store : DocumentStore) :
    Job.Ends (load site codec file) (store,site.disk)
      (fun a st' => site.said? codec file = some a ∧ st' = (store,site.disk))
      fun _ st' => site.said? codec file = none ∧ st' = (store,site.disk) := by
  unfold Site.said?
  refine job_bind ((contents_text site file store).imp ?_ ?_)
  · rintro text st' ⟨found,same⟩
    rw [found,Option.bind_some]
    split
    · next a read => exact job_pure ⟨by rw [read]; rfl,same⟩
    · next e read => exact job_throw ⟨by rw [read]; rfl,same⟩
  · rintro e st' ⟨none,same⟩
    exact ⟨by rw [none]; rfl,same⟩

def documentPath (site : Site) (name : String) : Path := if name = "" then [] else site.locate name

theorem openStore_path {site : Site} {name : String} {store : DocumentStore}
    (opened : openStore site name = .ok store) : store.path = documentPath site name := by
  unfold openStore at opened
  unfold documentPath
  split at opened
  · next none =>
    cases opened
    rw [if_pos none]
  · next named =>
    rw [if_neg named]
    exact (openAt_holds.mp (mapError_ok.mp opened)).2

-- Commands that only show something, and those that take in a file of many models.
def Looks : Command → Prop
  | .listConnections _ | .verifyConnection _ | .listConnectionModels .. | .showCatalog .. | .listModels ..
  | .listBaseModels _ | .listTags | .getModel _ | .exportModels _ => True
  | _ => False

def TakesMany : Command → Prop
  | .importModels _ | .syncModels .. => True
  | _ => False

section
variable {site : Site} {path : Path} {d : Disk} {st : DocumentStore × Disk}

theorem job_reads {action : Action α} {Q : α → Prop} (reads : action.Obeys reading Q) (start : Untouched path d st) :
    Job.Ends (act site action) st (fun _ => Untouched path d) fun _ => Untouched path d :=
  job_keeps reads start fun call st untouched admitted => read_untouched call st untouched admitted

theorem job_last {action : Action α} (last : action.CommitsLast) (start : Untouched path d st) :
    Job.Ends (act site action) st (fun _ _ => True) fun _ => Untouched path d := by
  refine job_act ?_
  cases failed : (action.run (answer site.failure) st).1 with
  | ok a => trivial
  | error e => exact start.stands (Script.CommitsLast.run (answer_steady site.failure) last failed)

theorem deliver_untouched {p : Path} {text : String} {disk : Disk} (untouched : Untouched path d st)
    (written : st.2.write p text = some disk) (apart : p ≠ path) : Untouched path d (st.1,disk) := by
  refine ⟨untouched.own,?_⟩
  rw [(Disk.write_item written).2,if_neg (Ne.symm apart)]
  exact untouched.document

theorem looks_untouched (service : Service) (caller : Caller) {command : Command} (looks : command.Looks)
    (apart : ∀ file, command = .exportModels (some file) → site.locate file ≠ path) (start : Untouched path d st) :
    Job.Ends (execute site service caller command) st (fun _ => Untouched path d) fun _ => Untouched path d := by
  have shown {α : Type} {action : Action α} {report : α → Report} (reads : action.Obeys reading fun _ => True) :
      Job.Ends (act site action >>= fun a => pure (report a)) st (fun _ => Untouched path d) fun _ => Untouched path d :=
    job_bind ((job_reads reads start).imp (fun _ _ kept => job_pure kept) fun _ _ kept => kept)
  cases command with
  | listConnections json => exact shown (list_connections_obeys reads_reading)
  | verifyConnection id => exact shown (service.verify_obeys _ reads_reading id)
  | listConnectionModels id json => exact shown (service.connectionModels_obeys _ reads_reading id)
  | showCatalog lenient json =>
    cases lenient with
    | false => exact shown (service.aggregate_obeys _ reads_reading)
    | true => exact shown (service.aggregateLenient_obeys _ reads_reading)
  | listModels filter json => exact shown (listed_obeys reads_reading.models _)
  | listBaseModels json => exact shown (listed_obeys reads_reading.models _)
  | listTags => exact shown (listed_obeys reads_reading.models _)
  | getModel id => exact shown (gated_obeys reads_reading.models caller id .read fun _ _ => obeys_pure trivial)
  | exportModels file =>
    have asked : Obeys reading (exportFor caller) fun _ => True := listed_obeys reads_reading.models _
    refine job_bind ((job_reads asked start).imp (fun models st' kept => ?_) fun _ _ kept => kept)
    cases file with
    | none => exact job_pure kept
    | some file =>
      refine job_bind (job_deliver (fun disk written => ?_) kept)
      exact job_pure (deliver_untouched kept written (apart file rfl))
  | _ => exact looks.elim

theorem failing_untouched (service : Service) (caller : Caller) {command : Command} (single : ¬ command.TakesMany)
    (apart : ∀ file, command = .exportModels (some file) → site.locate file ≠ path) (start : Untouched path d st) :
    Job.Ends (execute site service caller command) st (fun _ _ => True) fun _ => Untouched path d := by
  have changed {α : Type} {action : Action α} {report : α → Report} (last : action.CommitsLast) :
      Job.Ends (act site action >>= fun a => pure (report a)) st (fun _ _ => True) fun _ => Untouched path d :=
    job_bind ((job_last last start).imp (fun _ _ _ => job_pure trivial) fun _ _ kept => kept)
  have seen (looks : command.Looks) :
      Job.Ends (execute site service caller command) st (fun _ _ => True) fun _ => Untouched path d :=
    (looks_untouched service caller looks apart start).imp (fun _ _ _ => trivial) fun _ _ kept => kept
  cases command with
  | addConnection form => exact changed (create_connection_last form site.now)
  | updateConnection id patch => exact changed (update_connection_last id patch site.now)
  | removeConnection id => exact changed (delete_connection_last id)
  | toggleModel id => exact changed (gated_last fun r => save_last _)
  | createModel file =>
    refine job_bind (job_load (fun form _ => ?_) fun _ => start)
    exact changed (create_last caller form site.now)
  | updateModel id file =>
    refine job_bind (job_load (fun form _ => ?_) fun _ => start)
    exact changed (gated_last fun r => save_last _)
  | deleteModel id => exact changed (delete_last caller id)
  | deleteAllModels confirmed =>
    refine job_guard (fun _ => start) fun _ => job_guard (fun _ => start) fun _ => ?_
    exact changed (last_ask _)
  | importModels file | syncModels file confirmed => exact (single trivial).elim
  | _ => exact seen trivial

end

-- What a batch is refused for before anything of it is done.
def Refused (site : Site) : Command → Prop
  | .importModels file => site.said? (Codec.list Codec.modelImport) file = none
  | .syncModels file confirmed => ∀ forms, site.said? (Codec.list Codec.modelForm) file = some forms →
      confirmed = false ∨ ∃ form ∈ forms, ∃ e, validateId form.id = .error e
  | _ => False

theorem refused_untouched {site : Site} (service : Service) (caller : Caller) {command : Command}
    (refused : Refused site command) (store : DocumentStore) :
    Job.Ends (execute site service caller command) (store,site.disk) (fun _ _ => False)
      fun _ st' => st' = (store,site.disk) := by
  cases command with
  | importModels file =>
    refine job_bind ((load_said site _ file store).imp ?_ fun _ _ both => both.2)
    rintro items st' ⟨said,-⟩
    cases said.symm.trans refused
  | syncModels file confirmed =>
    refine job_bind ((load_said site _ file store).imp ?_ fun _ _ both => both.2)
    rintro forms st' ⟨said,rfl⟩
    refine job_guard (fun _ => rfl) fun certain => job_bind (job_act ?_)
    rcases refused forms said with uncertain | bad
    · rw [uncertain] at certain
      exact absurd rfl certain
    · exact concluding.imp (syncReplace_refused caller site.now bad) (fun _ _ impossible => impossible.elim)
        fun _ _ same => same
  | _ => exact refused.elim

section
variable {site : Site} {invocation : Invocation} {settings : Settings}

theorem invoke_unsettled {refusal : Refusal} (unsettled : site.settings invocation.config = .error refusal) :
    invoke site invocation = (.ofRefusal refusal,site.disk) := by
  unfold invoke
  simp only [unsettled,bind,Except.bind]

theorem invoke_leaves {P : Outcome → Disk → Prop} (found : site.settings invocation.config = .ok settings)
    (unready : ∀ refusal, P (.ofRefusal refusal) site.disk)
    (executed : ∀ store service, store.path = documentPath site settings.storePath →
      Job.Ends (execute site service invocation.caller invocation.command) (store,site.disk)
        (fun report st => P (.ofReport report) st.2) fun refusal st => P (.ofRefusal refusal) st.2) :
    P (invoke site invocation).1 (invoke site invocation).2 := by
  cases opened : openStore site settings.storePath with
  | error refusal =>
    have shut : invoke site invocation = (.ofRefusal refusal,site.disk) := by
      unfold invoke
      simp only [found,opened,bind,Except.bind]
    rw [shut]
    exact unready refusal
  | ok store => exact invoke_ends found opened unready fun service => executed store service (openStore_path opened)

end

-- The document of a store, or that there is none, outlives what fails and what only looks. A line that is no command
-- and a command that finds no settings change no file at all. Where there are settings, and an export is not told to
-- write over the store, the document is as it was behind every command that fails, a batch apart; behind every command
-- that only shows something, whatever it answers; and behind a batch that is refused for its file, for an id in it or
-- for not being confirmed, which fails. The failure of the disk, if there is one, is part of the site.
theorem document_outlives_failure (site : Site) (line : List String) :
    (∀ aside, ofLine line = .error aside → (run site line).2 = site.disk) ∧
    ∀ invocation, ofLine line = .ok invocation →
      (∀ refusal, site.settings invocation.config = .error refusal → run site line = (.ofRefusal refusal,site.disk)) ∧
      ∀ settings, site.settings invocation.config = .ok settings →
        (∀ file, invocation.command = .exportModels (some file) →
          site.locate file ≠ documentPath site settings.storePath) →
        let document (disk : Disk) : Option Item := disk.item? (documentPath site settings.storePath)
        (¬ invocation.command.TakesMany → (run site line).1.code ≠ 0 →
          document (run site line).2 = document site.disk) ∧
        (invocation.command.Looks → document (run site line).2 = document site.disk) ∧
        (Refused site invocation.command →
          (run site line).1.code ≠ 0 ∧ document (run site line).2 = document site.disk) := by
  refine ⟨fun aside said => by rw [run,said],fun invocation said => ?_⟩
  have invoked : run site line = invoke site invocation := by rw [run,said]
  rw [invoked]
  refine ⟨fun refusal unsettled => invoke_unsettled unsettled,fun settings found apart => ?_⟩
  intro document
  refine ⟨fun single => ?_,fun looks => ?_,fun refused => ?_⟩
  · refine invoke_leaves (P := fun outcome disk => outcome.code ≠ 0 → document disk = document site.disk) found
      (fun _ _ => rfl) fun store service own => ?_
    refine (failing_untouched service invocation.caller single apart ⟨own,rfl⟩).imp ?_ ?_
    · exact fun _ _ _ failed => absurd rfl failed
    · exact fun _ _ kept _ => kept.document
  · refine invoke_leaves (P := fun _ disk => document disk = document site.disk) found (fun _ => rfl)
      fun store service own => ?_
    exact (looks_untouched service invocation.caller looks apart ⟨own,rfl⟩).imp (fun _ _ kept => kept.document)
      fun _ _ kept => kept.document
  · refine invoke_leaves (P := fun outcome disk => outcome.code ≠ 0 ∧ document disk = document site.disk) found
      (fun refusal => ⟨ofRefusal_code refusal,rfl⟩) fun store service _ => ?_
    refine (refused_untouched service invocation.caller refused store).imp (fun _ _ impossible => impossible.elim) ?_
    rintro refusal st same
    exact ⟨ofRefusal_code refusal,by rw [same]⟩

-- A disk on which a commit writes a part of the file beside the document and then fails.
def tornSite : Site := { sharedSite with failure := some (.write (some "torn".toUTF8)) }

def asBob (words : List String) : List String := ["--user","bob","--role","user","models"] ++ words

-- The owner's deletion fails half way: something is left beside the document, and the document is what it was.
theorem torn_deletion_leaves_document :
    (run tornSite (asBob ["delete","m1"])).1 = { code := 1,error := some "storage error" } ∧
    (run tornSite (asBob ["delete","m1"])).2.item? ["s.json.tmp"] = some (.file "torn".toUTF8) ∧
    (run tornSite (asBob ["delete","m1"])).2.item? ["s.json"] = some (.file lockedDocument.toUTF8) := by
  have failed : (run tornSite (asBob ["delete","m1"])).1 = { code := 1,error := some "storage error" } := by
    decide +kernel
  refine ⟨failed,by decide +kernel,?_⟩
  have said : ofLine (asBob ["delete","m1"]) = .ok ⟨.deleteModel "m1",.user "bob",none⟩ := rfl
  have placed : (tornSite.settings none).toOption.map (·.storePath) = some "s.json" := by decide +kernel
  obtain ⟨settings,found,path⟩ := Option.map_eq_some_iff.mp placed
  obtain ⟨-,invoked⟩ := document_outlives_failure tornSite (asBob ["delete","m1"])
  have left := ((invoked _ said).2 settings (ok_of_toOption found) fun file other => by cases other).1
    (fun many => many) (by rw [failed]; decide)
  have document : documentPath tornSite settings.storePath = ["s.json"] := by
    rw [path]
    decide +kernel
  rw [document] at left
  exact left

end Command
end ModelCatalog
