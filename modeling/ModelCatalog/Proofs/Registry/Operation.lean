import ModelCatalog.Proofs.Store.Completion
import ModelCatalog.Registry.Connections
import ModelCatalog.Registry.Models

namespace ModelCatalog.Registry
open Ordered Json Store

inductive Operation where
  | createModel (caller : Caller) (form : ModelForm) (now : Timestamp)
  | importModels (caller : Caller) (items : List ModelImport) (now : Timestamp)
  | syncModels (caller : Caller) (forms : List ModelForm) (now : Timestamp)
  | updateModel (caller : Caller) (id : String) (form : ModelForm) (now : Timestamp)
  | toggleModel (caller : Caller) (id : String) (now : Timestamp)
  | deleteModel (caller : Caller) (id : String)
  | deleteAllModels
  | getModel (caller : Caller) (id : String)
  | listModels (caller : Caller) (filter : ModelFilter)
  | listBaseModels
  | listTags
  | exportModels (caller : Caller)
  | createConnection (form : ConnectionForm) (now : Timestamp)
  | updateConnection (id : ConnectionId) (patch : ConnectionPatch) (now : Timestamp)
  | deleteConnection (id : ConnectionId)
  | listConnections
  | getConnection (id : ConnectionId)
  | locateConnection (id : ConnectionId)

abbrev Operation.Result : Operation → Type
  | .createModel .. | .updateModel .. | .toggleModel .. | .getModel .. => ModelRecord
  | .importModels .. => ImportSummary
  | .syncModels .. | .listBaseModels | .exportModels _ => List ModelRecord
  | .deleteModel .. | .deleteConnection _ => Unit
  | .deleteAllModels => Nat
  | .listModels .. => ModelPage
  | .listTags => List String
  | .createConnection .. | .updateConnection .. | .getConnection _ => Connection
  | .listConnections => List Connection
  | .locateConnection _ => Nat × Connection

def Operation.action : (op : Operation) → Action op.Result
  | .createModel caller form now => create caller form now
  | .importModels caller items now => importItems caller items now
  | .syncModels caller forms now => syncReplace caller forms now
  | .updateModel caller id form now => update caller id form now
  | .toggleModel caller id now => toggle caller id now
  | .deleteModel caller id => delete caller id
  | .deleteAllModels => deleteAll
  | .getModel caller id => get caller id
  | .listModels caller filter => list caller filter
  | .listBaseModels => listBase
  | .listTags => Registry.listTags
  | .exportModels caller => exportFor caller
  | .createConnection form now => Connections.create form now
  | .updateConnection id patch now => Connections.update id patch now
  | .deleteConnection id => Connections.delete id
  | .listConnections => Connections.list
  | .getConnection id => Connections.get id
  | .locateConnection id => Connections.getIndexed id

def operate (backend : Backend σ) (ops : List Operation) (s : σ) : σ :=
  ops.foldl (fun s op => (op.action.run backend s).2) s

def Operation.FromJson : Operation → Prop
  | .createModel _ form _ | .updateModel _ _ form _ => Codec.modelForm.Reads form
  | .syncModels _ forms _ => ∀ form ∈ forms, Codec.modelForm.Reads form
  | _ => True

def gated (c : Caller) (id : String) (permission : Permission) (next : ModelRecord → Action α) : Action α :=
  load id >>= fun r => liftM (authorize c r permission) >>= fun _ => next r

theorem get_gated (c : Caller) (id : String) : get c id = gated c id .read pure := rfl

theorem update_gated (c : Caller) (id : String) (form : ModelForm) (now : Timestamp) :
    update c id form now = gated c id .write fun r => save (r.applyForm form now) := rfl

theorem toggle_gated (c : Caller) (id : String) (now : Timestamp) :
    toggle c id now = gated c id .write fun r => save { r with isActive := !r.isActive,updatedAt := now } := rfl

theorem delete_gated (c : Caller) (id : String) : delete c id = gated c id .write fun _ =>
    (do if !(← ask (.deleteModel id)) then throw (.notFound (.model id))) := rfl

def Reads (K : Contract) : Prop := ∀ {call : Call}, call.isRead = true → K.admits call

structure ReadsModels (K : Contract) : Prop where
  one : ∀ id, K.admits (.getModel id)
  all : K.admits .listModels

theorem Reads.models {K : Contract} (reads : Reads K) : ReadsModels K := ⟨fun _ => reads rfl,reads rfl⟩

-- What a contract has to admit for the operations on models with forms of some kind: the look-ups, and what stores the
-- models that such forms make.
structure PermitsModels (K : Contract) (Good : ModelForm → Prop) : Prop where
  looked : ReadsModels K
  item : ∀ {tree form}, Codec.modelForm.readTree tree = .ok form → Good form
  inserted : ∀ {form : ModelForm} owner now, Good form → K.admits (.insertModel (.ofForm form owner now))
  upserted : ∀ {form : ModelForm} owner now, Good form → K.admits (.upsertModel (.ofForm (form.own owner) owner now))
  updated : ∀ {form} (r : ModelRecord) now, Good form → K.admits (.updateModel (r.applyForm form now))
  toggled : ∀ {id} {r : ModelRecord} now, K.grants (.getModel id) (.ok (some r)) →
    K.admits (.updateModel { r with isActive := !r.isActive,updatedAt := now })

structure Permits (K : Contract) (Good : ModelForm → Prop) : Prop extends PermitsModels K Good where
  reads : Reads K
  connected : ∀ c, K.admits (.insertConnection c) ∧ K.admits (.updateConnection c)
  disconnected : ∀ id, K.admits (.deleteConnection id)

def Operation.Uses (Good : ModelForm → Prop) : Operation → Prop
  | .createModel _ form _ | .updateModel _ _ form _ => Good form
  | .syncModels _ forms _ => ∀ form ∈ forms, Good form
  | _ => True

def Operation.Removes (K : Contract) : Operation → Prop
  | .syncModels _ forms _ => K.admits (.retainModels (KeySet.ofList (forms.map (·.id))))
  | .deleteModel _ id => K.admits (.deleteModel id)
  | .deleteAllModels => K.admits .deleteAllModels
  | _ => True

section
open Action
variable {K : Contract} {Good : ModelForm → Prop}

theorem load_obeys (reads : ReadsModels K) (id : String) :
    Obeys K (load id) fun r => K.grants (.getModel id) (.ok (some r)) := by
  refine obeys_bind (obeys_ask (Q := fun found => K.grants (.getModel id) (.ok found)) (reads.one id) ?_) ?_
  · intro found granted
    exact granted
  · intro found granted
    split
    · exact obeys_pure granted
    · exact obeys_throw _

theorem save_obeys {r : ModelRecord} (admitted : K.admits (.updateModel r)) : Obeys K (save r) fun _ => True := by
  refine obeys_bind (obeys_attempt (Q := fun _ => True) admitted fun _ _ => trivial) fun answer _ => ?_
  split
  · exact obeys_pure trivial
  · exact obeys_throw _
  · exact obeys_throw _

theorem reads_reading : Reads reading := fun reads => reads

theorem save_last (r : ModelRecord) : (save r).CommitsLast := by
  refine last_attempted (fun answer => ?_) fun a => ⟨a,rfl⟩
  split
  · exact last_pure _
  · exact last_throw _
  · exact last_throw _

theorem validateId_obeys (id : String) : Obeys K (liftM (validateId id)) fun _ => True :=
  obeys_lift fun _ _ => trivial

theorem create_obeys (permits : PermitsModels K Good) (c : Caller) {form : ModelForm} (good : Good form) (now : Timestamp) :
    Obeys K (create c form now) fun _ => True := by
  refine obeys_bind (validateId_obeys form.id) fun _ _ => ?_
  refine obeys_bind (obeys_any (permits.looked.one form.id)) fun _ _ => obeys_guard ?_
  refine obeys_bind (obeys_attempt (Q := fun _ => True) (permits.inserted c.id now good) fun _ _ => trivial)
    fun answer _ => ?_
  split
  · exact obeys_pure trivial
  · exact obeys_throw _
  · exact obeys_throw _

theorem item_obeys (permits : PermitsModels K Good) (tree : Tree) (f : Fault → Error) :
    Obeys K (liftM ((Codec.modelForm.readTree tree).mapError f)) Good :=
  obeys_lift fun _ read => permits.item (mapError_ok.mp read)

theorem importItem_obeys (permits : PermitsModels K Good) (c : Caller) (now : Timestamp) (s : ImportSummary)
    (item : ModelImport) : Obeys K (importItem c now s item) fun _ => True := by
  unfold importItem
  split
  · exact obeys_pure trivial
  · refine obeys_bind (obeys_any (permits.looked.one item.id)) fun found _ => ?_
    split
    · next stored =>
      refine obeys_bind (item_obeys permits _ _) fun form good => ?_
      exact obeys_bind (save_obeys (permits.updated stored now good)) fun _ _ => obeys_pure trivial
    · refine obeys_bind (item_obeys permits _ _) fun form good => ?_
      exact obeys_bind (obeys_any (permits.inserted c.id now good)) fun _ _ => obeys_pure trivial

theorem importItem_last (c : Caller) (now : Timestamp) (s : ImportSummary) (item : ModelImport) :
    (importItem c now s item).CommitsLast := by
  unfold importItem
  split
  · exact last_pure _
  · refine last_bind (obeys_any (reads_reading.models.one item.id)) fun found _ => ?_
    split
    · next stored => exact last_lift fun form => last_map _ (save_last (stored.applyForm form now))
    · exact last_lift fun form => last_map _ (last_ask _)

-- The part of a replacement that checks and stores the forms; nothing is removed yet.
theorem written_obeys (permits : PermitsModels K Good) (c : Caller) {forms : List ModelForm}
    (good : ∀ form ∈ forms, Good form) (now : Timestamp) :
    Obeys K (forms.forM fun form => do
      let _ ← ask (.upsertModel (.ofForm (form.own c.id) c.id now))) fun _ => True :=
  obeys_forM fun form member =>
    obeys_bind (obeys_any (permits.upserted c.id now (good form member))) fun _ _ => obeys_pure trivial

theorem syncReplace_obeys (permits : PermitsModels K Good) (c : Caller) {forms : List ModelForm}
    (good : ∀ form ∈ forms, Good form) (kept : K.admits (.retainModels (KeySet.ofList (forms.map (·.id)))))
    (now : Timestamp) : Obeys K (syncReplace c forms now) fun _ => True := by
  refine obeys_bind (obeys_forM fun form _ => validateId_obeys form.id) fun _ _ => ?_
  refine obeys_bind (written_obeys permits c good now) fun _ _ => ?_
  exact obeys_bind (obeys_any kept) fun _ _ => obeys_any permits.looked.all

theorem gated_obeys (reads : ReadsModels K) (c : Caller) (id : String) (permission : Permission)
    {next : ModelRecord → Action α} {Q : α → Prop}
    (behind : ∀ r, K.grants (.getModel id) (.ok (some r)) → Obeys K (next r) Q) :
    Obeys K (gated c id permission next) Q :=
  obeys_bind (load_obeys reads id) fun r granted =>
    obeys_bind (obeys_lift (Q := fun _ => True) fun _ _ => trivial) fun _ _ => behind r granted

theorem delete_obeys (permits : PermitsModels K Good) (c : Caller) (id : String) (removed : K.admits (.deleteModel id)) :
    Obeys K (delete c id) fun _ => True := by
  rw [delete_gated]
  refine gated_obeys permits.looked c id .write fun _ _ => obeys_bind (obeys_any removed) fun removed _ => ?_
  split
  · exact obeys_throw _
  · exact obeys_pure trivial

theorem listed_obeys (reads : ReadsModels K) (f : List ModelRecord → α) :
    Obeys K (do return f (← ask .listModels)) fun _ => True :=
  obeys_bind (obeys_any reads.all) fun _ _ => obeys_pure trivial

theorem create_connection_obeys (permits : Permits K Good) (form : ConnectionForm) (now : Timestamp) :
    Obeys K (Connections.create form now) fun _ => True :=
  obeys_bind (obeys_lift (Q := fun _ => True) fun _ _ => trivial) fun c _ => obeys_any (permits.connected c).1

theorem get_connection_obeys (reads : Reads K) (id : ConnectionId) :
    Obeys K (Connections.get id) fun _ => True := by
  refine obeys_bind (obeys_any (reads rfl)) fun found _ => ?_
  split
  · exact obeys_pure trivial
  · exact obeys_throw _

theorem list_connections_obeys (reads : Reads K) : Obeys K Connections.list fun _ => True := obeys_any (reads rfl)

theorem locate_connection_obeys (reads : Reads K) (id : ConnectionId) :
    Obeys K (Connections.getIndexed id) fun _ => True := by
  refine obeys_bind (list_connections_obeys reads) fun found _ => ?_
  split
  · exact obeys_pure trivial
  · exact obeys_throw _

theorem update_connection_obeys (permits : Permits K Good) (id : ConnectionId) (patch : ConnectionPatch)
    (now : Timestamp) : Obeys K (Connections.update id patch now) fun _ => True := by
  refine obeys_bind (get_connection_obeys permits.reads id) fun c _ => ?_
  refine obeys_bind (obeys_lift (Q := fun _ => True) fun _ _ => trivial) fun c _ => ?_
  refine obeys_bind (obeys_attempt (Q := fun _ => True) (permits.connected c).2 fun _ _ => trivial) fun answer _ => ?_
  split
  · exact obeys_pure trivial
  · exact obeys_throw _
  · exact obeys_throw _

theorem delete_connection_obeys (permits : Permits K Good) (id : ConnectionId) :
    Obeys K (Connections.delete id) fun _ => True := by
  refine obeys_bind (obeys_any (permits.disconnected id)) fun removed _ => ?_
  split
  · exact obeys_throw _
  · exact obeys_pure trivial

theorem gated_last {c : Caller} {id : String} {permission : Permission} {next : ModelRecord → Action α}
    (behind : ∀ r, (next r).CommitsLast) : (gated c id permission next).CommitsLast :=
  last_bind (load_obeys reads_reading.models id) fun r _ => last_lift fun _ => behind r

theorem create_last (c : Caller) (form : ModelForm) (now : Timestamp) : (create c form now).CommitsLast := by
  have looked : Obeys reading (ask (.getModel form.id)) fun _ => True := obeys_any rfl
  refine last_lift fun _ => last_bind looked fun _ _ => last_guard ?_
  refine last_attempted (fun answer => ?_) fun a => ⟨a,rfl⟩
  split
  · exact last_pure _
  · exact last_throw _
  · exact last_throw _

theorem delete_last (c : Caller) (id : String) : (delete c id).CommitsLast := by
  rw [delete_gated]
  refine gated_last fun r => last_asked (fun removed => ?_) fun removed (writes : removed = true) =>
    ⟨(),by rw [writes]; rfl⟩
  split
  · exact last_throw _
  · exact last_pure _

theorem create_connection_last (form : ConnectionForm) (now : Timestamp) :
    (Connections.create form now).CommitsLast := last_lift fun _ => last_ask _

theorem update_connection_last (id : ConnectionId) (patch : ConnectionPatch) (now : Timestamp) :
    (Connections.update id patch now).CommitsLast := by
  refine last_bind (get_connection_obeys reads_reading id) fun c _ => last_lift fun c => ?_
  refine last_attempted (fun answer => ?_) fun a => ⟨a,rfl⟩
  split
  · exact last_pure _
  · exact last_throw _
  · exact last_throw _

theorem delete_connection_last (id : ConnectionId) : (Connections.delete id).CommitsLast := by
  refine last_asked (fun removed => ?_) fun removed (writes : removed = true) => ⟨(),by rw [writes]; rfl⟩
  split
  · exact last_throw _
  · exact last_pure _

def Operation.OnModels : Operation → Prop
  | .createConnection .. | .updateConnection .. | .deleteConnection _ | .listConnections | .getConnection _
  | .locateConnection _ => False
  | _ => True

theorem models_obeys (permits : PermitsModels K Good) {op : Operation} (models : op.OnModels) (uses : op.Uses Good)
    (removes : op.Removes K) : Obeys K op.action fun _ => True := by
  cases op with
  | createModel caller form now => exact create_obeys permits caller uses now
  | importModels caller items now =>
    exact obeys_foldlM trivial fun s item _ _ => importItem_obeys permits caller now s item
  | syncModels caller forms now => exact syncReplace_obeys permits caller uses removes now
  | updateModel caller id form now =>
    change Obeys K (update caller id form now) _
    rw [update_gated]
    exact gated_obeys permits.looked caller id .write fun r _ => save_obeys (permits.updated r now uses)
  | toggleModel caller id now =>
    change Obeys K (toggle caller id now) _
    rw [toggle_gated]
    exact gated_obeys permits.looked caller id .write fun r granted => save_obeys (permits.toggled now granted)
  | deleteModel caller id => exact delete_obeys permits caller id removes
  | deleteAllModels => exact obeys_any removes
  | getModel caller id =>
    change Obeys K (get caller id) _
    rw [get_gated]
    exact gated_obeys permits.looked caller id .read fun _ _ => obeys_pure trivial
  | listModels caller filter => exact listed_obeys permits.looked _
  | listBaseModels => exact listed_obeys permits.looked _
  | listTags => exact listed_obeys permits.looked _
  | exportModels caller => exact listed_obeys permits.looked _
  | _ => exact models.elim

theorem operation_obeys (permits : Permits K Good) (op : Operation) (uses : op.Uses Good) (removes : op.Removes K) :
    Obeys K op.action fun _ => True := by
  cases op with
  | createConnection form now => exact create_connection_obeys permits form now
  | updateConnection id patch now => exact update_connection_obeys permits id patch now
  | deleteConnection id => exact delete_connection_obeys permits id
  | listConnections => exact list_connections_obeys permits.reads
  | getConnection id => exact get_connection_obeys permits.reads id
  | locateConnection id => exact locate_connection_obeys permits.reads id
  | _ => exact models_obeys permits.toPermitsModels trivial uses removes

theorem nullFree_permits : Permits nullFree ModelForm.NullFree where
  looked := ⟨fun _ => trivial,trivial⟩
  item read := Codec.modelForm_faithful.valid_read _ _ _ read
  inserted _ _ fine := fine
  upserted _ _ fine := fine
  updated _ _ fine := fine
  toggled _ fine := fine
  reads {call} reading := by
    cases call with
    | insertModel r | updateModel r | upsertModel r => cases reading
    | _ => trivial
  connected _ := ⟨trivial,trivial⟩
  disconnected _ := trivial

theorem operation_nullFree (op : Operation) (read : op.FromJson) : Obeys nullFree op.action fun _ => True := by
  have fine {form : ModelForm} : Codec.modelForm.Reads form → form.NullFree := Codec.modelForm_faithful.valid_reads
  refine operation_obeys nullFree_permits op ?_ ?_
  · cases op with
    | createModel caller form now | updateModel caller id form now => exact fine read
    | syncModels caller forms now => exact fun form member => fine (read form member)
    | _ => trivial
  · cases op <;> trivial

end

end ModelCatalog.Registry
