import ModelCatalog.Proofs.Catalog.Keyless
import ModelCatalog.Proofs.Store.Coupled

namespace ModelCatalog

abbrev SameConnection (c c' : Connection) : Prop := c.blot = c'.blot

theorem SameConnection.id {c c' : Connection} (same : SameConnection c c') : c.id = c'.id :=
  Connection.blot_congr (f := Connection.id) (fun _ _ _ _ => rfl) same

theorem SameConnection.name {c c' : Connection} (same : SameConnection c c') : c.name = c'.name :=
  Connection.blot_congr (f := Connection.name) (fun _ _ _ _ => rfl) same

theorem SameConnection.kind {c c' : Connection} (same : SameConnection c c') : c.kind = c'.kind :=
  Connection.blot_congr (f := Connection.kind) (fun _ _ _ _ => rfl) same

theorem SameConnection.patched {c c' : Connection} (same : SameConnection c c') (patch : ConnectionPatch)
    (now : Timestamp) : Store.Agreeing SameConnection (c.applyPatch patch now) (c'.applyPatch patch now) := by
  obtain ⟨k,rfl,-⟩ := Connection.blot_eq same
  have keys : blotted (patch.apiKey.getD c.apiKey) = blotted (patch.apiKey.getD k) := by
    cases patch.apiKey with
    | some key => rfl
    | none => exact congrArg Connection.apiKey same
  unfold Connection.applyPatch
  cases patch.baseUrl with
  | none =>
    change SameConnection _ _
    simp only [SameConnection,Connection.blot,Connection.rekey,keys]
  | some url =>
    cases valid : validateBaseUrl url with
    | error e =>
      simp only [valid]
      rfl
    | ok _ =>
      simp only [valid]
      change SameConnection _ _
      simp only [SameConnection,Connection.blot,Connection.rekey,keys]

namespace Store
open Ordered
variable {failure : Option CommitFailure} {st st' : DocumentStore × Files.Disk}

theorem listConnections_coupled (alike : Alike st st') :
    Coupled (fun cs cs' : List Connection => cs.map Connection.blot = cs'.map Connection.blot)
      (DocumentStore.answer failure .listConnections st) (DocumentStore.answer failure .listConnections st') :=
  answer_coupled .listConnections .listConnections alike ⟨list_alike alike.live,alike.live,rfl⟩

theorem getConnection_coupled (alike : Alike st st') (id : ConnectionId) :
    Coupled (fun c c' : Option Connection => c.map Connection.blot = c'.map Connection.blot)
      (DocumentStore.answer failure (.getConnection id) st) (DocumentStore.answer failure (.getConnection id) st') :=
  answer_coupled (.getConnection id) (.getConnection id) alike ⟨get_alike alike.live id,alike.live,rfl⟩

theorem insertConnection_coupled (alike : Alike st st') (c : Connection) :
    Coupled SameConnection (DocumentStore.answer failure (.insertConnection c) st)
      (DocumentStore.answer failure (.insertConnection c) st') := by
  obtain ⟨-,-,next⟩ := blot_cases alike.live
  refine answer_coupled (.insertConnection c) (.insertConnection c) alike ?_
  simp only [Contents.answer,next]
  split
  · rfl
  · exact ⟨rfl,insert_alike alike.live rfl _ _,rfl⟩

theorem updateConnection_coupled (alike : Alike st st') {c c' : Connection} (same : SameConnection c c') :
    Coupled SameConnection (DocumentStore.answer failure (.updateConnection c) st)
      (DocumentStore.answer failure (.updateConnection c') st') := by
  obtain ⟨-,-,next⟩ := blot_cases alike.live
  refine answer_coupled (.updateConnection c) (.updateConnection c') alike ?_
  unfold Contents.answer
  dsimp only
  rw [same.id,contains_alike alike.live]
  split
  · have stored := insert_alike alike.live same c'.id st.1.live.nextId
    exact ⟨same,stored.trans (by rw [next]),rfl⟩
  · rfl

end Store

namespace Registry.Connections
open Store Action
variable {failure : Option CommitFailure} {st st' : DocumentStore × Files.Disk}

theorem list_coupled (alike : Alike st st') :
    Coupled (fun cs cs' : List Connection => cs.map Connection.blot = cs'.map Connection.blot)
      (list.run (DocumentStore.answer failure) st) (list.run (DocumentStore.answer failure) st') :=
  coupled_ask .listConnections .listConnections (listConnections_coupled alike)

theorem get_coupled (alike : Alike st st') (id : ConnectionId) :
    Coupled SameConnection ((get id).run (DocumentStore.answer failure) st)
      ((get id).run (DocumentStore.answer failure) st') := by
  refine coupled_bind (coupled_ask (.getConnection id) (.getConnection id) (getConnection_coupled alike id))
    fun found found' t t' same alike => ?_
  cases found with
  | none =>
    cases Option.map_eq_none_iff.mp same.symm
    exact coupled_throw _ alike
  | some c =>
    obtain ⟨c',rfl,same'⟩ := Option.map_eq_some_iff.mp same.symm
    exact coupled_pure same'.symm alike

theorem place_blot (cs : List Connection) (id : ConnectionId) :
    (cs.zipIdx.find? fun (c,_) => c.id = id).map (Prod.map Connection.blot fun i => i) =
      (cs.map Connection.blot).zipIdx.find? fun (c,_) => c.id = id := by
  rw [List.zipIdx_map,List.find?_map]
  rfl

theorem getIndexed_coupled (alike : Alike st st') (id : ConnectionId) :
    Coupled (fun place place' => place.1 = place'.1 ∧ SameConnection place.2 place'.2)
      ((getIndexed id).run (DocumentStore.answer failure) st)
      ((getIndexed id).run (DocumentStore.answer failure) st') := by
  refine coupled_bind (list_coupled alike) fun cs cs' t t' same alike => ?_
  have found : (cs.zipIdx.find? fun (c,_) => c.id = id).map (Prod.map Connection.blot fun i => i) =
      (cs'.zipIdx.find? fun (c,_) => c.id = id).map (Prod.map Connection.blot fun i => i) := by
    rw [place_blot,place_blot,same]
  cases place : cs.zipIdx.find? fun (c,_) => c.id = id with
  | none =>
    rw [place] at found
    rw [Option.map_eq_none_iff.mp found.symm]
    exact coupled_throw _ alike
  | some place =>
    rw [place] at found
    obtain ⟨place',there,both⟩ := Option.map_eq_some_iff.mp found.symm
    obtain ⟨connections,positions⟩ := Prod.ext_iff.mp both
    rw [there]
    exact coupled_pure ⟨positions.symm,connections.symm⟩ alike

theorem create_coupled (alike : Alike st st') (form : ConnectionForm) (now : Timestamp) :
    Coupled SameConnection ((create form now).run (DocumentStore.answer failure) st)
      ((create form now).run (DocumentStore.answer failure) st') := by
  refine coupled_bind (coupled_lift (agreeing_eq.mpr rfl) alike) fun c c' t t' same alike => ?_
  subst same
  exact coupled_ask (.insertConnection c) (.insertConnection c) (insertConnection_coupled alike c)

theorem update_coupled (alike : Alike st st') (id : ConnectionId) (patch : ConnectionPatch) (now : Timestamp) :
    Coupled SameConnection ((update id patch now).run (DocumentStore.answer failure) st)
      ((update id patch now).run (DocumentStore.answer failure) st') := by
  refine coupled_bind (get_coupled alike id) fun c c' t t' same alike => ?_
  refine coupled_bind (coupled_lift (same.patched patch now) alike) fun c c' t t' same alike => ?_
  refine coupled_bind (coupled_attempt (.updateConnection c) (.updateConnection c')
    (updateConnection_coupled alike same)) fun answer answer' t t' agreeing alike => ?_
  rcases agreeing.cases with ⟨c,c',rfl,rfl,same⟩ | ⟨e,rfl,rfl⟩
  · exact coupled_pure same alike
  · cases e <;> exact coupled_throw _ alike

theorem delete_coupled (alike : Alike st st') (id : ConnectionId) :
    Coupled Eq ((delete id).run (DocumentStore.answer failure) st)
      ((delete id).run (DocumentStore.answer failure) st') := by
  have unkeyed : (delete id).Obeys unkeyed fun _ => True := by
    refine obeys_bind (obeys_any trivial) fun removed _ => ?_
    split
    · exact obeys_throw _
    · exact obeys_pure trivial
  exact unkeyed.coupled alike

end Registry.Connections

namespace Catalog.Service
open Store Action Registry.Connections

variable {failure : Option CommitFailure} {st st' : DocumentStore × Files.Disk} {s : Service} {w : Surroundings}

theorem aggregate_coupled (keyless : Web.Keyless w.network) (alike : Alike st st') :
    Coupled Eq ((s.aggregate w).run (DocumentStore.answer failure) st)
      ((s.aggregate w).run (DocumentStore.answer failure) st') := by
  refine coupled_bind (list_coupled alike) fun cs cs' t t' same alike => ?_
  rw [strict_alike keyless same]
  exact coupled_lift (agreeing_eq.mpr rfl) alike

theorem aggregateLenient_coupled (keyless : Web.Keyless w.network) (alike : Alike st st') :
    Coupled Eq ((s.aggregateLenient w).run (DocumentStore.answer failure) st)
      ((s.aggregateLenient w).run (DocumentStore.answer failure) st') := by
  refine coupled_bind (list_coupled alike) fun cs cs' t t' same alike => ?_
  rw [lenient_alike keyless same]
  exact coupled_lift (agreeing_eq.mpr rfl) alike

theorem connectionModels_coupled (keyless : Web.Keyless w.network) (alike : Alike st st') (id : ConnectionId) :
    Coupled Eq ((s.connectionModels w id).run (DocumentStore.answer failure) st)
      ((s.connectionModels w id).run (DocumentStore.answer failure) st') := by
  refine coupled_bind (getIndexed_coupled alike id) fun place place' t t' same alike => ?_
  obtain ⟨index,c⟩ := place
  obtain ⟨index',c'⟩ := place'
  obtain ⟨rfl,same⟩ : index = index' ∧ SameConnection c c' := same
  have listed : s.listModels w c index = s.listModels w c' index :=
    Connection.blot_congr (f := fun c => s.listModels w c index)
      (fun c k first second => listModels_rekey keyless first second index) same
  dsimp only
  rw [listed,same.kind]
  refine coupled_bind (coupled_lift (agreeing_eq.mpr rfl) alike) fun _ _ t t' _ alike => ?_
  exact coupled_lift (agreeing_eq.mpr rfl) alike

theorem verify_coupled (keyless : Web.Keyless w.network) (alike : Alike st st') (id : ConnectionId) :
    Coupled Eq ((s.verify w id).run (DocumentStore.answer failure) st)
      ((s.verify w id).run (DocumentStore.answer failure) st') := by
  refine coupled_bind (get_coupled alike id) fun c c' t t' same alike => ?_
  have probed : s.probe w c = s.probe w c' :=
    Connection.blot_congr (f := fun c => s.probe w c) (fun c k first second => probe_rekey keyless first second) same
  rw [probed,same.kind]
  refine coupled_bind (coupled_lift (agreeing_eq.mpr rfl) alike) fun _ _ t t' _ alike => ?_
  exact coupled_lift (agreeing_eq.mpr rfl) alike

end Catalog.Service
end ModelCatalog
