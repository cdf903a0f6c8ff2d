import ModelCatalog.Proofs.Catalog.Coupled
import ModelCatalog.Proofs.Command.Execution
import ModelCatalog.Proofs.Store.RoundTrip

namespace ModelCatalog
open Catalog Files Json Registry Store

namespace Report
variable {c c' : Connection} {cs cs' : List Connection}

theorem redact_alike (same : SameConnection c c') : redact c = redact c' := by
  refine Connection.blot_congr (fun c k first second => ?_) same
  rw [redact,redact,if_neg first.1,if_neg (show (c.rekey k).apiKey ≠ "" from second.1)]
  rfl

theorem connections_alike (same : cs.map Connection.blot = cs'.map Connection.blot) (json : Bool) :
    connections json cs = connections json cs' := by
  have redacted : cs.map redact = cs'.map redact := by
    have shown := places_alike (g := redact ∘ Prod.fst) (fun c c' i alike => redact_alike alike) same
    rwa [← List.map_map,← List.map_map,List.zipIdx_map_fst,List.zipIdx_map_fst] at shown
  have empty : cs = [] ↔ cs' = [] := by
    rw [← List.map_eq_nil_iff (f := Connection.blot),same,List.map_eq_nil_iff]
  have table : connectionsTable cs = connectionsTable cs' := by
    unfold connectionsTable
    rw [places_alike (fun c c' i alike => ?_) same]
    obtain ⟨k,rfl,-⟩ := Connection.blot_eq alike
    rfl
  unfold connections
  rw [redacted,table]
  simp only [empty]

end Report

namespace Command
variable {site : Site} {st st' : DocumentStore × Disk}

theorem job_coupled_bind {α β γ δ : Type} {R : α → β → Prop} {Q : γ → δ → Prop} {job : Job α} {job' : Job β}
    {f : α → Job γ} {g : β → Job δ} (first : Coupled R (job.run.run st) (job'.run.run st'))
    (rest : ∀ a b t t', R a b → Alike t t' → Coupled Q ((f a).run.run t) ((g b).run.run t')) :
    Coupled Q ((job >>= f).run.run st) ((job' >>= g).run.run st') := by
  have whole {α β : Type} (job : Job α) (f : α → Job β) (st : DocumentStore × Disk) :
      (job >>= f).run.run st = behind (job.run.run st) fun a t => (f a).run.run t := by
    have split : (job >>= f).run.run st = (ExceptT.bindCont f (job.run.run st).1).run (job.run.run st).2 := rfl
    rw [split,behind]
    cases (job.run.run st).1 <;> rfl
  rw [whole,whole]
  exact first.behind rest

theorem act_coupled {α β : Type} {R : α → β → Prop} {action : Action α} {action' : Action β}
    (coupled : Coupled R (action.run (DocumentStore.answer site.failure) st)
      (action'.run (DocumentStore.answer site.failure) st')) :
    Coupled R ((act site action).run.run st) ((act site action').run.run st') :=
  ⟨coupled.results.mapError Refusal.failed,coupled.states⟩

theorem report_coupled {α : Type} {R : α → α → Prop} {action : Action α} {report : α → Report}
    (coupled : Coupled R (action.run (DocumentStore.answer site.failure) st)
      (action.run (DocumentStore.answer site.failure) st')) (said : ∀ a b, R a b → report a = report b) :
    Coupled Eq ((act site action >>= fun a => pure (report a)).run.run st)
      ((act site action >>= fun a => pure (report a)).run.run st') :=
  job_coupled_bind (act_coupled coupled) fun a b _ _ related alike => ⟨said a b related,alike⟩

theorem guard_coupled {α : Type} {R : α → α → Prop} {holds : Prop} [Decidable holds] {e : Refusal}
    {next : PUnit → Job α} (alike : Alike st st') (rest : Coupled R ((next ()).run.run st) ((next ()).run.run st')) :
    Coupled R ((if holds then throw e >>= next else next ()).run.run st)
      ((if holds then throw e >>= next else next ()).run.run st') := by
  split
  · exact ⟨rfl,alike⟩
  · exact rest

theorem deliver_run (site : Site) (file text : String) (st : DocumentStore × Disk) :
    (deliver site file text).run.run st =
      match st.2.write (site.locate file) text with
      | some disk => (.ok (),st.1,disk)
      | none => (.error (Refusal.fileUnwritten (st.2.writeFault (site.locate file))),st) := by
  change (match st.2.write (site.locate file) text with
    | some disk => (set (st.1,disk) : Job Unit)
    | none => throw (Refusal.fileUnwritten (st.2.writeFault (site.locate file)))).run.run st = _
  cases st.2.write (site.locate file) text <;> rfl

theorem deliver_coupled (file text : String) (alike : Alike st st') :
    Coupled Eq ((deliver site file text).run.run st) ((deliver site file text).run.run st') := by
  have written : (st.2.write (site.locate file) text).map Disk.shape =
      (st'.2.write (site.locate file) text).map Disk.shape := by
    rw [Disk.write,Disk.write,Disk.write_shape,Disk.write_shape,alike.shape]
  have fault : st.2.writeFault (site.locate file) = st'.2.writeFault (site.locate file) := by
    rw [← Disk.writeFault_shape,alike.shape,Disk.writeFault_shape]
  rw [deliver_run,deliver_run]
  rcases Disk.shape_cases written with ⟨none,none'⟩ | ⟨disk,disk',found,found',shapes⟩
  · rw [none,none',fault]
    exact ⟨rfl,alike⟩
  · rw [found,found']
    exact ⟨rfl,alike.path,alike.live,shapes⟩

theorem unkeyed_permits : PermitsModels unkeyed fun _ => True where
  looked := ⟨fun _ => trivial,trivial⟩
  item _ := trivial
  inserted _ _ _ := trivial
  upserted _ _ _ := trivial
  updated _ _ _ := trivial
  toggled _ _ := trivial

theorem execute_coupled (keyless : Web.Keyless site.network) (service : Service) (caller : Caller) (command : Command)
    (alike : Alike st st') (loads : ∀ {α : Type} (codec : Codec α) (file : String), codec.Blots id →
      Coupled Eq ((load site codec file).run.run st) ((load site codec file).run.run st')) :
    Coupled Eq ((execute site service caller command).run.run st)
      ((execute site service caller command).run.run st') := by
  have modelled (op : Operation) (models : op.OnModels) (removes : op.Removes unkeyed) (report : op.Result → Report) :
      (op.Uses fun _ => True) → ∀ st st', Alike st st' →
        Coupled Eq ((act site op.action >>= fun a => pure (report a)).run.run st)
          ((act site op.action >>= fun a => pure (report a)).run.run st') := fun uses st st' alike =>
    report_coupled ((models_obeys unkeyed_permits models uses removes).coupled alike) fun a b same => congrArg report same
  -- The store and the services have their own coupling lemmas; on models a command is one script without keys.
  cases command with
  | listConnections json =>
    exact report_coupled (Connections.list_coupled alike) fun cs cs' same => Report.connections_alike same json
  | addConnection form =>
    refine report_coupled (Connections.create_coupled alike form site.now) fun c c' same => ?_
    rw [same.id,same.name]
  | updateConnection id patch =>
    refine report_coupled (Connections.update_coupled alike id patch site.now) fun c c' same => ?_
    rw [same.id,same.name]
  | removeConnection id => exact report_coupled (Connections.delete_coupled alike id) fun _ _ _ => rfl
  | verifyConnection id => exact report_coupled (Service.verify_coupled keyless alike id) fun _ _ same => by rw [same]
  | listConnectionModels id json =>
    exact report_coupled (Service.connectionModels_coupled keyless alike id) fun _ _ same => by rw [same]
  | showCatalog lenient json =>
    cases lenient with
    | false => exact report_coupled (Service.aggregate_coupled keyless alike) fun _ _ same => by rw [same]
    | true => exact report_coupled (Service.aggregateLenient_coupled keyless alike) fun _ _ same => by rw [same]
  | listModels filter json => exact modelled (.listModels caller filter) trivial trivial _ trivial st st' alike
  | listBaseModels json => exact modelled .listBaseModels trivial trivial _ trivial st st' alike
  | listTags => exact modelled .listTags trivial trivial _ trivial st st' alike
  | getModel id => exact modelled (.getModel caller id) trivial trivial _ trivial st st' alike
  | toggleModel id => exact modelled (.toggleModel caller id site.now) trivial trivial _ trivial st st' alike
  | createModel file =>
    refine job_coupled_bind (loads _ file Codec.modelForm_blots) fun form form' t t' same alike => ?_
    subst same
    exact modelled (.createModel caller form site.now) trivial trivial _ trivial t t' alike
  | updateModel id file =>
    refine job_coupled_bind (loads _ file Codec.modelForm_blots) fun form form' t t' same alike => ?_
    subst same
    exact modelled (.updateModel caller id form site.now) trivial trivial _ trivial t t' alike
  | deleteModel id => exact modelled (.deleteModel caller id) trivial trivial _ trivial st st' alike
  | deleteAllModels confirmed =>
    rw [execute]
    refine guard_coupled alike ?_
    refine guard_coupled alike ?_
    exact modelled .deleteAllModels trivial trivial _ trivial st st' alike
  | exportModels file =>
    have obeys : (Operation.exportModels caller).action.Obeys unkeyed fun _ => True :=
      models_obeys unkeyed_permits trivial trivial trivial
    refine job_coupled_bind (act_coupled (obeys.coupled alike)) fun models models' t t' same alike => ?_
    subst same
    cases file with
    | none => exact ⟨rfl,alike⟩
    | some file => exact job_coupled_bind (deliver_coupled file _ alike) fun _ _ _ _ _ alike => ⟨rfl,alike⟩
  | importModels file =>
    refine job_coupled_bind (loads _ file (Codec.list_blots _)) fun items items' t t' same alike => ?_
    subst same
    exact modelled (.importModels caller items site.now) trivial trivial _ trivial t t' alike
  | syncModels file confirmed =>
    refine job_coupled_bind (loads _ file (Codec.list_blots _)) fun forms forms' t t' same alike => ?_
    subst same
    refine guard_coupled alike ?_
    exact modelled (.syncModels caller forms site.now) trivial trivial _ (fun _ _ => trivial) t t' alike

-- What a site finds on a disk where a document has other keys.
section
variable {path : Path} {t : String}

theorem readBytes_cases (held : site.disk.item? path = some (.file t.toUTF8)) (t' : String) (other : Path) :
    (site.disk.rewritten path t'.toUTF8).readBytes other = site.disk.readBytes other ∨
      site.disk.readBytes other = .ok t.toUTF8 ∧
        (site.disk.rewritten path t'.toUTF8).readBytes other = .ok t'.toUTF8 := by
  by_cases there : other = path
  · subst there
    exact .inr ⟨Disk.readBytes_ok.mpr held,Disk.readBytes_rewritten held t'.toUTF8⟩
  · exact .inl (Disk.readBytes_rewritten_other held t'.toUTF8 there)

theorem read_cases (held : site.disk.item? path = some (.file t.toUTF8)) (t' : String) (other : Path) :
    (site.disk.rewritten path t'.toUTF8).read other = site.disk.read other ∨
      site.disk.read other = .ok t ∧ (site.disk.rewritten path t'.toUTF8).read other = .ok t' :=
  (readBytes_cases held t' other).imp Disk.read_of_readBytes fun both =>
    ⟨Disk.read_text.mpr both.1,Disk.read_text.mpr both.2⟩

variable {t' : String}

theorem layer_on (site : Site) (d : Disk) (file : String) : Site.layer { site with disk := d } file =
    match d.read (site.locate file) with
    | .error _ => .error (.configUnread file)
    | .ok text => match Layer.read? text with
      | some layer => .ok layer
      | none => .error (.configMalformed file) := rfl

theorem layer_alike (held : site.disk.item? path = some (.file t.toUTF8)) (same : SameButKeys t t') (file : String) :
    Site.layer { site with disk := site.disk.rewritten path t'.toUTF8 } file = site.layer file := by
  have layers : Layer.read? t' = Layer.read? t := by
    rcases same with rfl | ⟨first,second,-⟩
    · rfl
    · rw [Layer.read?_braced first,Layer.read?_braced second]
  change _ = Site.layer { site with disk := site.disk } file
  rw [layer_on,layer_on]
  rcases read_cases held t' (site.locate file) with read | ⟨first,second⟩
  · rw [read]
  · rw [first,second]
    simp only [layers]

theorem settings_alike (held : site.disk.item? path = some (.file t.toUTF8)) (same : SameButKeys t t') (config : Option String) :
    Site.settings { site with disk := site.disk.rewritten path t'.toUTF8 } config = site.settings config := by
  have present (file : String) : Site.layerIfPresent { site with disk := site.disk.rewritten path t'.toUTF8 } file =
      site.layerIfPresent file := by
    have there : ((site.disk.rewritten path t'.toUTF8).item? (site.locate file)).isSome =
        (site.disk.item? (site.locate file)).isSome := by
      rw [Disk.rewritten_item held]
      split
      · next there =>
        rw [there,held]
        rfl
      · rfl
    rw [Site.layerIfPresent,Site.layerIfPresent,layer_alike held same]
    change (if ((site.disk.rewritten path t'.toUTF8).item? (site.locate file)).isSome = true then _ else _) = _
    rw [there]
  unfold Site.settings
  rw [present,present]
  cases config with
  | none => rfl
  | some file =>
    dsimp only
    rw [layer_alike held same]
    rfl

theorem contents_run {file : String} (typed : file ≠ "-") (st : DocumentStore × Disk) :
    (contents site file).run.run st =
      (match st.2.read (site.locate file) with
        | .ok text => .ok text
        | .error _ => .error (.fileUnread file),st) := by
  unfold contents
  rw [if_neg typed]
  change (match st.2.read (site.locate file) with
    | .ok text => (pure text : Job String)
    | .error _ => throw (Refusal.fileUnread file)).run.run st = _
  cases st.2.read (site.locate file) <;> rfl

-- What is loaded is the same, for a document with other keys reads as the same or not at all.
theorem load_alike {α : Type} {codec : Codec α} (blots : codec.Blots id) (held : site.disk.item? path = some (.file t.toUTF8))
    (same : SameButKeys t t') {s s' : DocumentStore} (alike : Alike (s,site.disk) (s',site.disk.rewritten path t'.toUTF8))
    (file : String) : Coupled Eq ((load site codec file).run.run (s,site.disk))
      ((load site codec file).run.run (s',site.disk.rewritten path t'.toUTF8)) := by
  have texts : codec.readText t = codec.readText t' := by
    have both := Codec.readText_blots blots same
    rwa [Except.map_id] at both
  have read : Coupled (fun text text' => codec.readText text = codec.readText text')
      ((contents site file).run.run (s,site.disk)) ((contents site file).run.run (s',site.disk.rewritten path t'.toUTF8)) := by
    by_cases typed : file = "-"
    · unfold contents
      rw [if_pos typed]
      exact ⟨rfl,alike⟩
    · rw [contents_run typed,contents_run typed]
      refine ⟨?_,alike⟩
      rcases read_cases held t' (site.locate file) with read | ⟨first,second⟩
      · dsimp only
        rw [read]
        cases site.disk.read (site.locate file) <;> rfl
      · dsimp only
        rw [first,second]
        exact texts
  refine job_coupled_bind read fun text text' st st' same alike => ?_
  rw [same]
  cases codec.readText text' with
  | ok a => exact ⟨rfl,alike⟩
  | error e => exact ⟨rfl,alike⟩

theorem openStore_alike (held : site.disk.item? path = some (.file t.toUTF8)) (same : SameButKeys t t') (name : String) :
    Agreeing (fun s s' => s.path = s'.path ∧ s.live.blot = s'.live.blot) (openStore site name)
      (openStore { site with disk := site.disk.rewritten path t'.toUTF8 } name) := by
  have opened (d : Disk) : openStore { site with disk := d } name = if name = "" then .ok ⟨[],.empty⟩
      else (DocumentStore.openAt (site.locate name) d).mapError (.storeUnopened name) := rfl
  change Agreeing _ (openStore { site with disk := site.disk } name) _
  rw [opened,opened]
  split
  · exact ⟨rfl,rfl⟩
  unfold DocumentStore.openAt
  rcases readBytes_cases held t' (site.locate name) with read | ⟨first,second⟩
  · rw [read]
    exact agreeing_refl (fun _ => ⟨rfl,rfl⟩) _
  · rw [first,second]
    simp only [decodeBytes_toUTF8]
    rcases (agreeing_map.mpr (decode_alike same)).cases with ⟨live,live',decoded,decoded',contents⟩ | ⟨e,decoded,decoded'⟩
    · rw [decoded,decoded']
      exact ⟨rfl,contents⟩
    · rw [decoded,decoded']
      rfl

end

theorem execute_site (site : Site) (d : Disk) (service : Service) (caller : Caller) (command : Command) :
    execute { site with disk := d } service caller command = execute site service caller command := by
  cases command with
  | showCatalog lenient json => cases lenient <;> rfl
  | _ => rfl

theorem invoke_alike {path : Path} {t t' : String} (held : site.disk.item? path = some (.file t.toUTF8))
    (same : SameButKeys t t') (keyless : Web.Keyless site.network) (invocation : Invocation) :
    (invoke { site with disk := site.disk.rewritten path t'.toUTF8 } invocation).1 = (invoke site invocation).1 := by
  unfold invoke
  rw [settings_alike held same]
  cases site.settings invocation.config with
  | error refusal => rfl
  | ok settings =>
    have opened := openStore_alike held same settings.storePath
    simp only [bind,Except.bind]
    rcases opened.cases with ⟨s,s',first,second,paths,contents⟩ | ⟨refusal,first,second⟩
    · rw [first,second]
      cases Service.start settings.catalog with
      | error e => rfl
      | ok service =>
        have alike : Alike (s,site.disk) (s',site.disk.rewritten path t'.toUTF8) :=
          ⟨paths,contents,(Disk.rewritten_shape held t'.toUTF8).symm⟩
        have ran := execute_coupled keyless service invocation.caller invocation.command alike fun codec file blots =>
          load_alike blots held same alike file
        have ended (result : Except Refusal Report × DocumentStore × Disk) :
            (match result with
              | (.ok report,_,disk) => (Outcome.ofReport report,disk)
              | (.error refusal,_,disk) => (.ofRefusal refusal,disk)).1 =
              match result.1 with
              | .ok report => Outcome.ofReport report
              | .error refusal => .ofRefusal refusal := by
          obtain ⟨result,_,disk⟩ := result
          cases result <;> rfl
        refine (ended _).trans (Eq.trans ?_ (ended _).symm)
        rw [execute_site site,agreeing_eq.mp ran.results]
    · rw [first,second]

-- No key of a connection reaches the output of the program: exit code, output, warnings and error line are the same for
-- two documents that are the same but for keys, as long as no provider answers by the key. Descriptions show none.
theorem keys_concealed :
    (∀ (site : Site) (path : Path) (t t' : String), site.disk.item? path = some (.file t.toUTF8) → SameButKeys t t' →
      Web.Keyless site.network → ∀ line : List String,
        (run { site with disk := site.disk.rewritten path t'.toUTF8 } line).1 = (run site line).1) ∧
    ∀ (c : Connection) (k : String), c.apiKey ≠ "" → k ≠ "" → (c.rekey k).describe = c.describe := by
  refine ⟨fun site path t t' held same keyless line => ?_,fun c k first second => Connection.describe_rekey first second⟩
  unfold run
  split
  · exact invoke_alike held same keyless _
  · rfl

def keyedMembers (k : String) : List (String × Tree) :=
  let one : Tree := .number (.int 1 (by decide))
  [("version",one),("connections",.array [.object [("id",one),("name",.text "c"),("type",.text "openai"),
    ("base_url",.text "http://h"),("api_key",.text k),("created_at",one),("updated_at",one)]])]

def keyedDocument (k : String) : String := (Tree.object (keyedMembers k)).pretty

def keyedSite : Site where
  disk := ⟨.ofList [([".mosaic"],.directory),([".mosaic","config.toml"],.file "[store]\npath = \"s.json\"\n".toUTF8),
    (["s.json"],.file (keyedDocument "sk-one").toUTF8)]⟩
  directory := ""
  home := "home"
  now := ⟨1700000090,by decide⟩
  network := fun r => .answered 200 (some ("[\x7b\"id\":\"" ++ r.address.text ++ "\"\x7d]"))

theorem other_key_same_catalog :
    keyedMembers "sk-one" ≠ keyedMembers "sk-two" ∧ (run keyedSite ["catalog"]).1.code = 0 ∧
    (run { keyedSite with disk := keyedSite.disk.rewritten ["s.json"] (keyedDocument "sk-two").toUTF8 } ["catalog"]).1 =
      (run keyedSite ["catalog"]).1 ∧
    (listedConnection.rekey "sk-one").apiKey ≠ "" ∧ "sk-two" ≠ "" ∧
    ((listedConnection.rekey "sk-one").rekey "sk-two").describe = (listedConnection.rekey "sk-one").describe := by
  have same : SameButKeys (keyedDocument "sk-one") (keyedDocument "sk-two") := by
    have keys : blotted "sk-one" = blotted "sk-two" := by decide +kernel
    have members (k : String) : Node.blotMembers (Node.rereadMembers (keyedMembers k)) =
        Node.rereadMembers (keyedMembers (blotted k)) := rfl
    have braced (k : String) : Braced (keyedDocument k).toList := by
      rw [keyedDocument]
      exact braced_pretty _
    have read (k : String) : Node.read (keyedDocument k) = (.object (Node.rereadMembers (keyedMembers k)) none,true) :=
      Node.read_printed (.object (keyedMembers k))
    refine .inr ⟨braced _,braced _,_,_,none,true,read _,read _,?_⟩
    rw [members,members,keys]
  have held : keyedSite.disk.item? ["s.json"] = some (.file (keyedDocument "sk-one").toUTF8) := rfl
  have keyless : Web.Keyless keyedSite.network := fun _ _ _ _ _ => rfl
  have listed : (run keyedSite ["catalog"]).1.code = 0 := by decide +kernel
  refine ⟨by decide,listed,keys_concealed.1 keyedSite ["s.json"] _ _ held same keyless ["catalog"],?_⟩
  have first : (listedConnection.rekey "sk-one").apiKey ≠ "" := by decide
  have second : "sk-two" ≠ "" := by decide
  exact ⟨first,second,keys_concealed.2 (listedConnection.rekey "sk-one") "sk-two" first second⟩

end Command
end ModelCatalog
