import ModelCatalog.Proofs.Command.Execution
import ModelCatalog.Proofs.Registry.Overlay

namespace ModelCatalog.Command
open Catalog Files Json Ordered Registry Store Action DocumentStore

-- Calls that leave the model of an id where it is.
def sparing (id : String) : Contract where
  admits
    | .deleteModel other => other ≠ id
    | .deleteAllModels => False
    | .retainModels keep => keep.contains id = true
    | _ => True
  grants _ _ := True

theorem sparing_permits (id : String) : Permits (sparing id) fun _ => True where
  looked := ⟨fun _ => trivial,trivial⟩
  item _ := trivial
  inserted _ _ _ := trivial
  upserted _ _ _ := trivial
  updated _ _ _ := trivial
  toggled _ _ := trivial
  reads {call} reading := by
    cases call with
    | deleteModel other | deleteAllModels | retainModels keep => cases reading
    | _ => trivial
  connected _ := ⟨trivial,trivial⟩
  disconnected _ := trivial

theorem answer_spares {s next : Contents} {id : String} {call : Call} {a : call.Answer}
    (admitted : (sparing id).admits call) (answered : s.answer call = .ok (a,next))
    (held : s.models.contains id = true) : next.models.contains id = true := by
  cases call with
  | insertModel r =>
    simp only [Contents.answer] at answered
    split at answered
    · cases answered
    · cases answered
      exact Keyed.contains_insert held r.id r
  | updateModel r =>
    simp only [Contents.answer] at answered
    split at answered
    · cases answered
      exact Keyed.contains_insert held r.id r
    · cases answered
  | upsertModel r =>
    cases answered
    split
    · exact Keyed.contains_insert held r.id _
    · exact Keyed.contains_insert held r.id r
  | deleteModel other =>
    cases answered
    refine (s.models.contains_filter (fun key => decide (key ≠ other)) id).trans ?_
    rw [held,Bool.and_true]
    exact decide_eq_true (Ne.symm admitted)
  | deleteAllModels => exact admitted.elim
  | retainModels keep =>
    cases answered
    refine (s.models.contains_filter (fun key => keep.contains key) id).trans ?_
    rw [held,Bool.and_true]
    exact admitted
  | insertConnection c =>
    simp only [Contents.answer] at answered
    split at answered
    · cases answered
    · cases answered
      exact held
  | updateConnection c =>
    simp only [Contents.answer] at answered
    split at answered
    · cases answered
      exact held
    · cases answered
  | _ => cases answered; exact held

-- A model is still stored: the document is the one that was there, or lists it.
def Remains (path : Path) (id : String) (d d' : Disk) : Prop :=
  d'.readBytes path = d.readBytes path ∨
    ∃ s : Contents, d'.readBytes path = .ok (encode s).toUTF8 ∧ s.models.contains id = true

def Dropped (path : Path) (id : String) (d' : Disk) : Prop :=
  ∃ s : Contents, d'.readBytes path = .ok (encode s).toUTF8 ∧ s.models.contains id = false

-- What the calls that leave a model keep, from the opening of its store on.
structure Holding (path : Path) (id : String) (d : Disk) (st : DocumentStore × Disk) : Prop where
  own : st.1.path = path
  held : st.1.live.models.contains id = true
  document : st.2.readBytes path = d.readBytes path ∨ st.2.readBytes path = .ok (encode st.1.live).toUTF8

section
variable {path : Path} {id : String} {d : Disk} {st : DocumentStore × Disk} {failure : Option CommitFailure}

theorem Holding.remains (holding : Holding path id d st) : Remains path id d st.2 :=
  holding.document.imp (fun same => same) fun written => ⟨st.1.live,written,holding.held⟩

theorem answer_holding (call : Call) (holding : Holding path id d st) (admitted : (sparing id).admits call) :
    Holding path id d (answer failure call st).2 := by
  obtain ⟨s,disk⟩ := st
  obtain ⟨own,held,document⟩ := holding
  have settles := answer_settles failure call s disk
  refine ⟨(answer_path failure call s disk).trans own,?_,?_⟩
  · cases answered : (answer failure call (s,disk)).1 with
    | error e =>
      rw [(settles.refused e answered).1]
      exact held
    | ok a =>
      obtain ⟨next,found,moved,-⟩ := settles.granted a answered
      rw [moved]
      exact answer_spares admitted found held
  · rcases answer_document failure call s disk with synced | ⟨same,unchanged⟩
    · unfold Synced at synced
      rw [(answer_path failure call s disk).trans own] at synced
      exact .inr synced
    · rw [same,← own,unchanged,own]
      exact document

theorem spared (call : Call) (st : DocumentStore × Disk) (holding : Holding path id d st)
    (admitted : (sparing id).admits call) :
    (sparing id).grants call (answer failure call st).1 ∧ Holding path id d (answer failure call st).2 :=
  ⟨trivial,answer_holding call holding admitted⟩

theorem refused_holding {call : Call} {e : StoreError} (refused : (answer failure call st).1 = .error e)
    (holding : Holding path id d st) : Holding path id d (answer failure call st).2 := by
  obtain ⟨s,disk⟩ := st
  obtain ⟨own,held,document⟩ := holding
  have settles := answer_settles failure call s disk
  have same := (settles.refused e refused).1
  have unchanged := settles.document refused
  rw [own] at unchanged
  exact ⟨by rw [same,own],by rw [same]; exact held,by rw [same,unchanged]; exact document⟩

theorem retained_dropped {keep : KeySet String} {n : Nat} (gone : keep.contains id = false)
    (answered : (answer failure (.retainModels keep) st).1 = .ok n) (holding : Holding path id d st) :
    Dropped path id (answer failure (.retainModels keep) st).2.2 := by
  obtain ⟨s,disk⟩ := st
  obtain ⟨own,held,-⟩ := holding
  obtain ⟨next,found,moved,-⟩ := (answer_settles failure (.retainModels keep) s disk).granted n answered
  have left : next.models.contains id = false := by
    cases found
    refine (s.live.models.contains_filter (fun key => keep.contains key) id).trans ?_
    rw [gone,Bool.false_and]
  rcases answer_document failure (.retainModels keep) s disk with synced | ⟨same,-⟩
  · unfold Synced at synced
    rw [moved] at synced
    rw [← own]
    exact ⟨next,synced,left⟩
  · rw [moved] at same
    rw [← congrArg DocumentStore.live same] at held
    cases left.symm.trans held

theorem syncReplace_holding (c : Caller) (forms : List ModelForm) (now : Timestamp) (holding : Holding path id d st) :
    concluding (fun _ st' => if id ∈ forms.map (·.id) then Holding path id d st' else Dropped path id st'.2)
      (fun _ st' => Holding path id d st') ((syncReplace c forms now).run (answer failure) st).1
      ((syncReplace c forms now).run (answer failure) st).2 := by
  have checked : ∀ st', Holding path id d st' → Holding path id d
      (Action.run (answer failure) (forms.forM fun form => (validateId form.id : Action Unit)) st').2 :=
    fun st' holding => ((obeys_forM fun form _ => validateId_obeys form.id).run holding spared).2
  have written : ∀ st', Holding path id d st' → Holding path id d
      (Action.run (answer failure) (forms.forM fun form => do
        let _ ← ask (.upsertModel (.ofForm (form.own c.id) c.id now))) st').2 :=
    fun st' holding => ((written_obeys (sparing_permits id).toPermitsModels c (fun _ _ => trivial) now).run holding spared).2
  refine concluding_bind (concluding_kept (checked st holding) fun _ st' holding => ?_)
  refine concluding_bind (concluding_kept (written st' holding) fun _ st'' holding => ?_)
  refine concluding_bind (concluding_ask _ (fun n answered => ?_) fun e refused => refused_holding refused holding)
  have listed : ∀ last : DocumentStore × Disk, answer failure .listModels last = (.ok last.1.live.models.values,last) :=
    fun _ => rfl
  refine concluding_ask .listModels (fun models _ => ?_) fun e refused => ?_
  · rw [listed]
    split
    · next kept => exact answer_holding (.retainModels _) holding (KeySet.contains_ofList.mpr kept)
    · next gone =>
      refine retained_dropped (Bool.eq_false_iff.mpr fun held => gone ?_) answered holding
      exact KeySet.contains_ofList.mp held
  · rw [listed] at refused
    cases refused

theorem opened_holding {store : DocumentStore} {name : String} {site : Site} (opened : openStore site name = .ok store)
    (held : store.live.models.contains id = true) :
    Holding store.path id site.disk (store,site.disk) ∧ ∃ bytes, site.disk.readBytes store.path = .ok bytes := by
  refine ⟨⟨rfl,held,.inl rfl⟩,?_⟩
  unfold openStore at opened
  split at opened
  · cases opened
    cases held
  · obtain ⟨whole,same⟩ := openAt_holds.mp (mapError_ok.mp opened)
    rcases whole with ⟨bytes,found,-⟩ | ⟨-,empty⟩
    · rw [same]
      exact ⟨bytes,found⟩
    · rw [empty] at held
      cases held

theorem Holding.deliver {p : Path} {text : String} {old : ByteArray} {disk : Disk} (holding : Holding path id d st)
    (there : d.readBytes path = .ok old) (written : st.2.write p text = some disk) (apart : p ≠ path) :
    Holding path id d (st.1,disk) := by
  obtain ⟨s,before⟩ := st
  obtain ⟨own,held,document⟩ := holding
  have same : disk.readBytes path = before.readBytes path := by
    have file : ∃ bytes, before.readBytes path = .ok bytes := by
      rcases document with unchanged | written
      · exact ⟨old,unchanged.trans there⟩
      · exact ⟨_,written⟩
    obtain ⟨bytes,found⟩ := file
    rw [found,Disk.readBytes_ok,(Disk.write_item written).2,if_neg (Ne.symm apart)]
    exact Disk.readBytes_ok.mp found
  exact ⟨own,held,by rw [same]; exact document⟩

end

def LeavesOr (done : Disk → Prop) (path : Path) (id : String) (d : Disk) (outcome : Outcome) (d' : Disk) : Prop :=
  (outcome.code ≠ 0 ∧ Remains path id d d') ∨ (outcome.code = 0 ∧ done d')

def Replaced (site : Site) (store : DocumentStore) (file id : String) (d' : Disk) : Prop :=
  ∃ forms, ((load site (Codec.list Codec.modelForm) file).run.run (store,site.disk)).1 = .ok forms ∧
    if id ∈ forms.map (·.id) then Remains store.path id site.disk d' else Dropped store.path id d'

def Overwritten (store : DocumentStore) (c : Caller) (d' : Disk) : Prop :=
  d'.readBytes store.path = .ok ((Codec.list Codec.modelRecord).write
    (store.live.models.values.filter fun r => c.isAdmin || c.owns r.owner)).pretty.toUTF8

section
variable {site : Site} {invocation : Invocation} {settings : Settings} {store : DocumentStore} {id : String}
  {r : ModelRecord} {file : String}

theorem refusal_leaves {done : Disk → Prop} {path : Path} {d d' : Disk} (refusal : Refusal) (remains : Remains path id d d') :
    LeavesOr done path id d (.ofRefusal refusal) d' := .inl ⟨ofRefusal_code refusal,remains⟩

theorem command_leaves (found : site.settings invocation.config = .ok settings)
    (opened : openStore site settings.storePath = .ok store) (stored : store.live.models.get? id = some r)
    (barred : Barred invocation.caller r .write) (replaces : ∀ file, invocation.command ≠ .syncModels file true)
    (exports : ∀ file, invocation.command = .exportModels (some file) → site.locate file ≠ store.path) :
    Remains store.path id site.disk (invoke site invocation).2 := by
  obtain ⟨start,bytes,there⟩ := opened_holding opened (Option.isSome_of_mem stored)
  refine invoke_ends (P := fun _ disk => Remains store.path id site.disk disk) found opened (fun _ => start.remains) ?_
  intro service
  have kept : Job.Ends (execute site service invocation.caller invocation.command) (store,site.disk)
      (fun _ => Holding store.path id site.disk) fun _ => Holding store.path id site.disk := by
    by_cases own : invocation.command = .deleteModel id
    · rw [own]
      refine job_bind (job_act ?_)
      rw [delete_gated,gated_barred (answer_serves site.failure) stored barred]
      exact start
    · refine execute_keeps (sparing_permits id) spared service _ _ ?_ ?_ replaces ?_ start
      · intro other same deleted
        rw [deleted] at same
        exact own same
      · intro _ administrator
        cases barred.1.symm.trans administrator
      · intro file same st text disk holding written
        exact holding.deliver there written (exports file same)
  exact kept.imp (fun _ _ holding => holding.remains) fun _ _ holding => holding.remains

theorem replacement_leaves (found : site.settings invocation.config = .ok settings)
    (opened : openStore site settings.storePath = .ok store) (held : store.live.models.contains id = true)
    (same : invocation.command = .syncModels file true) :
    LeavesOr (Replaced site store file id) store.path id site.disk (invoke site invocation).1
      (invoke site invocation).2 := by
  obtain ⟨start,-⟩ := opened_holding opened held
  refine invoke_ends (P := LeavesOr _ store.path id site.disk) found opened
    (fun refusal => refusal_leaves refusal start.remains) ?_
  intro service
  rw [same]
  refine job_bind (job_load (fun forms read => ?_) fun refusal => refusal_leaves refusal start.remains)
  refine job_guard (fun uncertain => by cases uncertain) fun _ => job_bind (job_act ?_)
  refine (syncReplace_holding invocation.caller forms site.now start).imp ?_ ?_
  · intro models st' done
    refine job_pure (.inr ⟨rfl,forms,read,?_⟩)
    split
    · next given =>
      rw [if_pos given] at done
      exact done.remains
    · next gone =>
      rw [if_neg gone] at done
      exact done
  · intro e st' holding
    exact refusal_leaves _ holding.remains

theorem export_leaves (found : site.settings invocation.config = .ok settings)
    (opened : openStore site settings.storePath = .ok store) (held : store.live.models.contains id = true)
    (same : invocation.command = .exportModels (some file)) (own : site.locate file = store.path) :
    LeavesOr (Overwritten store invocation.caller) store.path id site.disk (invoke site invocation).1
      (invoke site invocation).2 := by
  obtain ⟨start,-⟩ := opened_holding opened held
  refine invoke_ends (P := LeavesOr _ store.path id site.disk) found opened
    (fun refusal => refusal_leaves refusal start.remains) ?_
  intro service
  rw [same]
  have listed : (exportFor invocation.caller).run (answer site.failure) (store,site.disk) =
      (.ok (store.live.models.values.filter fun r => invocation.caller.isAdmin || invocation.caller.owns r.owner),
        (store,site.disk)) := rfl
  refine job_bind (job_act ?_)
  rw [listed]
  refine job_bind (job_deliver (fun disk written => ?_) (refusal_leaves _ start.remains))
  rw [own] at written
  exact job_pure (.inr ⟨rfl,Disk.readBytes_write written⟩)

end

-- A model that its caller may not delete outlives every command line, but for two ways around that gate: the
-- replacement of all models, which leaves what it was given, and an export that is written over the store.
theorem barred_model_remains {site : Site} {line : List String} {invocation : Invocation} {settings : Settings}
    {store : DocumentStore} {id : String} (said : ofLine line = .ok invocation)
    (found : site.settings invocation.config = .ok settings) (opened : openStore site settings.storePath = .ok store)
    (refused : ((Registry.delete invocation.caller id).run (answer site.failure) (store,site.disk)).1 =
      .error (.forbidden (.model id))) :
    let after := run site line
    ((∀ file, invocation.command ≠ .syncModels file true) →
      (∀ file, invocation.command = .exportModels (some file) → site.locate file ≠ store.path) →
      Remains store.path id site.disk after.2) ∧
    (∀ file, invocation.command = .syncModels file true →
      LeavesOr (Replaced site store file id) store.path id site.disk after.1 after.2) ∧
    (∀ file, invocation.command = .exportModels (some file) → site.locate file = store.path →
      LeavesOr (Overwritten store invocation.caller) store.path id site.disk after.1 after.2) := by
  intro after
  obtain ⟨r,stored,barred,-⟩ := delete_forbidden (answer_serves site.failure) refused
  have held : store.live.models.contains id = true := Option.isSome_of_mem stored
  have invoked : after = invoke site invocation := by
    unfold after run
    rw [said]
  rw [invoked]
  refine ⟨?_,?_,?_⟩
  · intro replaces exports
    exact command_leaves found opened stored barred replaces exports
  · intro file same
    exact replacement_leaves found opened held same
  · intro file same own
    exact export_leaves found opened held same own

def lockedDocument : String :=
  "\x7b\"version\":1,\"models\":[\x7b\"id\":\"m1\",\"user_id\":\"bob\",\"name\":\"One\",\"access_control\":\x7b\x7d," ++
    "\"created_at\":1700000000,\"updated_at\":1700000000\x7d]\x7d"

def sharedSite : Site where
  disk := ⟨.ofList [([".mosaic"],.directory),([".mosaic","config.toml"],.file "[store]\npath = \"s.json\"\n".toUTF8),
    (["none.json"],.file "[]".toUTF8),(["s.json"],.file lockedDocument.toUTF8)]⟩
  directory := ""
  home := "home"
  now := ⟨1700000060,by decide⟩

def asAlice (words : List String) : List String := ["--user","alice","--role","user","models"] ++ words

theorem replacement_passes_gate :
    run sharedSite (asAlice ["delete","m1"]) = ({ code := 1,error := some "access denied: model m1" },sharedSite.disk) ∧
    run sharedSite (asAlice ["delete-all","--yes"]) =
      ({ code := 1,error := some "delete-all requires the admin role" },sharedSite.disk) ∧
    (run sharedSite (asAlice ["sync","none.json","--yes"])).1.code = 0 ∧
    Dropped ["s.json"] "m1" (run sharedSite (asAlice ["sync","none.json","--yes"])).2 := by
  have said : ofLine (asAlice ["sync","none.json","--yes"]) = .ok ⟨.syncModels "none.json" true,.user "alice",none⟩ := rfl
  have placed : (sharedSite.settings none).toOption.map (·.storePath) = some "s.json" := by decide +kernel
  obtain ⟨settings,found,path⟩ := Option.map_eq_some_iff.mp placed
  have found := ok_of_toOption found
  have opened : openStore sharedSite settings.storePath = .ok ⟨["s.json"],lockedStore⟩ := by
    rw [path]
    exact ok_of_toOption (by decide +kernel)
  have stored : lockedStore.models.get? "m1" = some lockedModel := by decide +kernel
  have barred : Barred (.user "alice") lockedModel .write := by decide +kernel
  have refused : ((Registry.delete (.user "alice") "m1").run (answer sharedSite.failure)
      (⟨["s.json"],lockedStore⟩,sharedSite.disk)).1 = .error (.forbidden (.model "m1")) := by
    rw [delete_gated,gated_barred (answer_serves sharedSite.failure) stored barred]
    rfl
  have done : (run sharedSite (asAlice ["sync","none.json","--yes"])).1.code = 0 := by decide +kernel
  refine ⟨by decide +kernel,by decide +kernel,done,?_⟩
  obtain ⟨-,replaced,-⟩ := barred_model_remains said found opened refused
  rcases replaced "none.json" rfl with ⟨failed,-⟩ | ⟨-,forms,read,left⟩
  · exact (failed done).elim
  · have none : forms = [] := by
      have seen : ((load sharedSite (Codec.list Codec.modelForm) "none.json").run.run
          (⟨["s.json"],lockedStore⟩,sharedSite.disk)).1.toOption = some [] := by decide +kernel
      rw [read] at seen
      cases seen
      rfl
    subst none
    exact left

end ModelCatalog.Command
