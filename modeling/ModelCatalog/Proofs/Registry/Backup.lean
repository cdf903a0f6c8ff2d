import ModelCatalog.Proofs.Registry.Overlay
import ModelCatalog.Proofs.Store.Mirror

namespace ModelCatalog.Registry
open Ordered Store Action

-- What an export is for a caller: all models for an administrator, and the own ones otherwise.
def exported (c : Caller) (r : ModelRecord) : Bool := c.isAdmin || c.owns r.owner

-- A record taken in from a backup: the model that is stored under its id keeps its creation time, and a new one is
-- created now.
def restored (now : Timestamp) (stored : Option ModelRecord) (r : ModelRecord) : ModelRecord :=
  { r with createdAt := (stored.map (·.createdAt)).getD now,updatedAt := now }

def restore (now : Timestamp) (records : List ModelRecord) (s : Contents) : Contents :=
  { s with models := s.models.insertAll (records.map fun r => (r.id,restored now (s.models.get? r.id) r)) }

def counted (s : Contents) (summary : ImportSummary) (records : List ModelRecord) : ImportSummary where
  created := summary.created + records.countP fun r => !s.models.contains r.id
  updated := summary.updated + records.countP fun r => s.models.contains r.id
  skipped := summary.skipped

section
variable {s : Contents} {c : Caller} {now : Timestamp} {r : ModelRecord} {records : List ModelRecord}

theorem exportFor_yields (c : Caller) (s : Contents) :
    (exportFor c).Yields s (s.models.values.filter (exported c)) s :=
  yields_bind (yields_ask rfl) (yields_pure _)

theorem applyForm_toForm {stored : ModelRecord} (own : stored.id = r.id) (now : Timestamp) :
    stored.applyForm r.toForm now = restored now (some stored) r := by
  unfold ModelRecord.applyForm restored
  rw [own]
  rfl

theorem made_ofRecord (c : Caller) (now : Timestamp) (filed : Filed s) (fine : r.NullFree) :
    made c now (.ofRecord r) (s.models.get? r.id) = .ok (restored now (s.models.get? r.id) r) := by
  have carries := ModelImport.ofRecord_carries r
  cases found : s.models.get? r.id with
  | some stored =>
    rw [made,carries.overlay fine stored]
    exact congrArg Except.ok (applyForm_toForm (filed r.id stored found) now)
  | none =>
    rw [made,carries.toForm fine]
    rfl

theorem counted_one (s : Contents) (summary : ImportSummary) (r : ModelRecord) :
    counted s summary [r] = summary.plus (tally (s.models.contains r.id)) := by
  cases held : s.models.contains r.id <;> simp [counted,tally,ImportSummary.plus,held]

theorem ofRecord_takes (c : Caller) (now : Timestamp) (filed : Filed s) (valid : ValidId r.id) (fine : r.NullFree) :
    Takes c (.ofRecord r,now) s (tally (s.models.contains r.id)) (restore now [r] s) := by
  have own : (ModelImport.ofRecord r).id = r.id := ModelImport.ofRecord_id r
  have whole : made c now (.ofRecord r) (s.models.get? (ModelImport.ofRecord r).id) =
      .ok (restored now (s.models.get? r.id) r) := by
    rw [own]
    exact made_ofRecord c now filed fine
  have takes : Takes c (.ofRecord r,now) s _ _ := .taken (by rwa [own]) whole
  dsimp only at takes
  rwa [own] at takes

theorem importItem_restores (c : Caller) (now : Timestamp) (summary : ImportSummary) (filed : Filed s)
    (valid : ValidId r.id) (fine : r.NullFree) :
    (importItem c now summary (.ofRecord r)).Yields s (counted s summary [r]) (restore now [r] s) := by
  rw [counted_one]
  exact importItem_yields summary (filed _) (ofRecord_takes c now filed valid fine)

theorem restore_other (s : Contents) (now : Timestamp) (r : ModelRecord) {id : String} (other : id ≠ r.id) :
    (restore now [r] s).models.get? id = s.models.get? id := by
  change (s.models.insert r.id _).get? id = _
  simp [other]

theorem restored_restored (now : Timestamp) (stored : Option ModelRecord) (r other : ModelRecord) :
    restored now (some (restored now stored r)) other = restored now stored other := rfl

theorem restore_cons (now : Timestamp) (r : ModelRecord) (records : List ModelRecord) (s : Contents) :
    restore now records (restore now [r] s) = restore now (r :: records) s := by
  have same : (records.map fun other => (other.id,restored now ((restore now [r] s).models.get? other.id) other)) =
      records.map fun other => (other.id,restored now (s.models.get? other.id) other) := by
    refine List.map_congr_left fun other _ => ?_
    by_cases own : other.id = r.id
    · have found : (restore now [r] s).models.get? r.id = some (restored now (s.models.get? r.id) r) := by
        change (s.models.insert r.id _).get? r.id = _
        simp
      rw [own,found,restored_restored]
    · rw [restore_other s now r own]
  rw [restore,same]
  rfl

theorem counted_cons (s : Contents) (summary : ImportSummary) (now : Timestamp) (apart : r.id ∉ records.map (·.id)) :
    counted (restore now [r] s) (counted s summary [r]) records = counted s summary (r :: records) := by
  have same : ∀ other ∈ records, (restore now [r] s).models.contains other.id = s.models.contains other.id := by
    intro other member
    unfold Keyed.contains
    rw [restore_other s now r fun same => apart (List.mem_map.mpr ⟨other,member,same⟩)]
  have created : records.countP (fun other => !(restore now [r] s).models.contains other.id) =
      records.countP fun other => !s.models.contains other.id :=
    List.countP_congr fun other member => by rw [same other member]
  have updated : records.countP (fun other => (restore now [r] s).models.contains other.id) =
      records.countP fun other => s.models.contains other.id :=
    List.countP_congr fun other member => by rw [same other member]
  simp only [counted,created,updated,List.countP_cons,List.countP_nil,ImportSummary.mk.injEq,Nat.zero_add]
  refine ⟨?_,?_,trivial⟩
  · omega
  · omega

-- Records of different ids are all taken in, whatever is stored: each is laid over the model of its id, or created.
theorem importItems_restores (c : Caller) (now : Timestamp) (summary : ImportSummary) (filed : Filed s)
    (distinct : (records.map (·.id)).Nodup) (fine : ∀ r ∈ records, ValidId r.id ∧ r.NullFree) :
    Yields ((records.map ModelImport.ofRecord).foldlM (importItem c now) summary) s (counted s summary records)
      (restore now records s) := by
  induction records generalizing s summary with
  | nil => exact yields_pure summary
  | cons r rest ih =>
    obtain ⟨apart,distinct⟩ := List.nodup_cons.mp distinct
    obtain ⟨valid,nullFree⟩ := fine r List.mem_cons_self
    have first := importItem_restores c now summary filed valid nullFree
    have filed' : Filed (restore now [r] s) := put_filed filed (restored now (s.models.get? r.id) r)
    have others := ih (counted s summary [r]) filed' distinct fun other member => fine other (List.mem_cons_of_mem _ member)
    rw [restore_cons,counted_cons s summary now apart] at others
    rw [List.map_cons,List.foldlM_cons]
    exact yields_bind first others

theorem restore_empty (empty : s.models = ∅) (now : Timestamp) (records : List ModelRecord) : restore now records s =
    { s with models := .ofList (records.map fun r => (r.id,{ r with createdAt := now,updatedAt := now })) } := by
  unfold restore
  rw [empty]
  rfl

theorem counted_empty (empty : s.models = ∅) (records : List ModelRecord) :
    counted s ⟨0,0,0⟩ records = ⟨records.length,0,0⟩ := by
  have unheld (id : String) : s.models.contains id = false := by
    rw [empty]
    rfl
  simp [counted,unheld]

theorem filed_values (filed : Filed s) (member : r ∈ s.models.values) : s.models.get? r.id = some r := by
  obtain ⟨key,stored⟩ := Keyed.mem_values.mp member
  have found := Keyed.mem_get? stored
  rwa [filed key r found]

theorem filed_map (filed : Filed s) (p : ModelRecord → Bool) (f : ModelRecord → ModelRecord) :
    (s.models.values.filter p).map (fun r => (r.id,f r)) = ((s.models.filter fun entry => p entry.2).map f).entries := by
  rw [← Keyed.values_filter,Keyed.values,List.map_map]
  refine List.map_congr_left fun entry member => ?_
  have own : entry.2.id = entry.1 := filed entry.1 entry.2 (Keyed.mem_get? (Keyed.mem_filter.mp member).1)
  exact Prod.ext own rfl

theorem ids_distinct (filed : Filed s) (p : ModelRecord → Bool) :
    ((s.models.values.filter p).map (·.id)).Nodup := by
  have keys := ((s.models.filter fun entry => p entry.2).map id).keys_distinct
  rwa [← filed_map filed p id,List.map_map] at keys

theorem restore_self (filed : Filed s) (now : Timestamp) (p : ModelRecord → Bool) :
    restore now (s.models.values.filter p) s = { s with
      models := s.models.map fun r => if r ∈ s.models.values.filter p then { r with updatedAt := now } else r } := by
  have kept : (s.models.values.filter p).map (fun r => (r.id,restored now (s.models.get? r.id) r)) =
      ((s.models.filter fun entry => p entry.2).map fun r => { r with updatedAt := now }).entries := by
    rw [← filed_map filed]
    refine List.map_congr_left fun r member => ?_
    rw [filed_values filed (List.mem_filter.mp member).1]
    rfl
  have same : s.models.insertAll
        ((s.models.filter fun entry => p entry.2).map fun r => { r with updatedAt := now }).entries =
      s.models.map fun r => if r ∈ s.models.values.filter p then { r with updatedAt := now } else r := by
    refine Keyed.ext_get? fun id => ?_
    rw [Keyed.get?_insertAll,Entries.find?_reverse (Keyed.keys_distinct _),Keyed.get?_map]
    change (Keyed.get? _ id).or _ = _
    rw [Keyed.get?_map,Keyed.get?_filter_value]
    cases found : s.models.get? id with
    | none => rfl
    | some r =>
      have stored : r ∈ s.models.values := Keyed.mem_values.mpr ⟨id,Keyed.get?_mem found⟩
      by_cases taken : p r = true
      · simp [Option.filter,taken,stored]
      · simp [Option.filter,taken]
  rw [restore,kept,same]

theorem counted_self (filed : Filed s) (p : ModelRecord → Bool) :
    counted s ⟨0,0,0⟩ (s.models.values.filter p) = ⟨0,(s.models.values.filter p).length,0⟩ := by
  have held : ∀ r ∈ s.models.values.filter p, s.models.contains r.id = true := by
    intro r member
    rw [Keyed.contains,filed_values filed (List.mem_filter.mp member).1]
    rfl
  have none : (s.models.values.filter p).countP (fun r => !s.models.contains r.id) = 0 :=
    List.countP_eq_zero.mpr fun r member => by simp [held r member]
  have all : (s.models.values.filter p).countP (fun r => s.models.contains r.id) = (s.models.values.filter p).length :=
    List.countP_eq_length.mpr held
  simp [counted,none,all]

end

-- An export is a backup, for every caller and every importer: its records, read as a batch, are all taken in. A store
-- without models then has exactly these records, all as they were but for their times. A store with the same contents
-- has all its records as they were, but for the last change of those that were exported.
theorem export_is_backup {live : σ → Contents} {backend : Backend σ} {good : σ → Prop}
    (mirrors : Mirrors live backend good) {st : σ} (order : good st) (sound : Sound (live st))
    (parsed : ∀ id r, (live st).models.get? id = some r → Json.Codec.modelRecord.Reads r) (caller importer : Caller)
    (now : Timestamp) :
    let outcome := (exportFor caller).run backend st
    ∃ records items, outcome.1 = .ok records ∧ live outcome.2 = live st ∧ good outcome.2 ∧
      let tree := (Json.Codec.list Json.Codec.modelRecord).write records
      (Json.Codec.list Json.Codec.modelImport).readTree tree = .ok items ∧
      (tree.Exact → tree.depth ≤ 127 → (Json.Codec.list Json.Codec.modelImport).readText tree.pretty = .ok items) ∧
      ∀ {τ : Type} {live' : τ → Contents} {backend' : Backend τ} {good' : τ → Prop}, Mirrors live' backend' good' →
        ∀ target, good' target →
          let imported := (importItems importer items now).run backend' target
          ((live' target).models = ∅ → imported.1 = .ok ⟨records.length,0,0⟩ ∧ live' imported.2 = { live' target with
            models := .ofList (records.map fun r => (r.id,{ r with createdAt := now,updatedAt := now })) }) ∧
          (live' target = live st → imported.1 = .ok ⟨0,records.length,0⟩ ∧ live' imported.2 = { live st with
            models := (live st).models.map fun r => if r ∈ records then { r with updatedAt := now } else r }) := by
  intro outcome
  have filed : Filed (live st) := fun id r found => (sound id r found).1
  let records := (live st).models.values.filter (exported caller)
  have fine : ∀ r ∈ records, ValidId r.id ∧ r.NullFree := by
    intro r member
    have found := filed_values filed (List.mem_filter.mp member).1
    exact ⟨(sound r.id r found).2,Json.Codec.modelRecord_faithful.valid_reads (parsed r.id r found)⟩
  obtain ⟨answered,same,left⟩ := (exportFor_yields caller (live st)).run mirrors order
  refine ⟨records,records.map .ofRecord,answered,same,left,ModelImport.read_records .tree records,?_,?_⟩
  · intro exact shallow
    rw [Json.Codec.readText_ok,Json.Node.read_pretty _ exact]
    exact ⟨(ModelImport.read_records .document records).trans (if_pos shallow),rfl⟩
  · intro τ live' backend' good' mirrors' target order' imported
    -- One run for both targets: they differ in what stood there before.
    have taken (filed' : Filed (live' target)) : imported.1 = .ok (counted (live' target) ⟨0,0,0⟩ records) ∧
        live' imported.2 = restore now records (live' target) := by
      have yields := importItems_restores importer now ⟨0,0,0⟩ filed' (ids_distinct filed _) fine
      obtain ⟨result,contents,-⟩ := yields.run mirrors' order'
      exact ⟨result,contents⟩
    constructor
    · intro empty
      have filed' : Filed (live' target) := fun id r found => by
        rw [empty] at found
        cases found
      rw [counted_empty empty,restore_empty empty] at taken
      exact taken filed'
    · intro again
      rw [again] at taken
      rw [counted_self filed,restore_self filed] at taken
      exact taken filed

def guarded : ModelRecord where
  id := "a"
  owner := "alice"
  baseModelId := some "base"
  name := "Alpha"
  params := { maxTokens := some ⟨512,by decide⟩,stop := ["."],customParams := .ofList [("k",.null)] }
  info := { tags := [⟨"t"⟩] }
  access := some ⟨some ⟨.ofList ["g"],.ofList []⟩,none⟩
  isActive := false
  createdAt := ⟨1600000000,by decide⟩
  updatedAt := ⟨1600000009,by decide⟩

def foreign : ModelRecord := { guarded with id := "b",owner := "bob",access := none }

def twoOwners : Contents := { Contents.empty with models := .ofList [("a",guarded),("b",foreign)] }

theorem blank_writable : Writable ["s.json"] ⟨∅⟩ where
  inside := List.cons_ne_nil _ _
  clear _ above := by cases above
  free := by decide
  beside := by decide

-- Alice takes away her model; Bob takes it in on an empty document, and where it is still stored.
theorem own_model_restored :
    let now : Timestamp := ⟨1700000000,by decide⟩
    ∃ items, ((exportFor (.user "alice")).run memory twoOwners).1 = .ok [guarded] ∧
      (Json.Codec.list Json.Codec.modelImport).readTree ((Json.Codec.list Json.Codec.modelRecord).write [guarded]) = .ok items ∧
      let fresh := (importItems (.user "bob") items now).run DocumentStore.reliable (⟨["s.json"],.empty⟩,⟨∅⟩)
      let again := (importItems (.user "bob") items now).run memory twoOwners
      fresh.1 = .ok ⟨1,0,0⟩ ∧ fresh.2.1.live.models.values = [{ guarded with createdAt := now,updatedAt := now }] ∧
        again.1 = .ok ⟨0,1,0⟩ ∧ again.2.models.values = [{ guarded with updatedAt := now },foreign] := by
  intro now
  have stored : ∀ entry ∈ twoOwners.models.entries, entry.2.id = entry.1 ∧ ValidId entry.1 := by decide +kernel
  have sound : Sound twoOwners := fun id r found => stored (id,r) (Keyed.get?_mem found)
  have fine : ∀ entry ∈ twoOwners.models.entries, entry.2.NullFree := by
    have listed : twoOwners.models.entries = [("a",guarded),("b",foreign)] := by decide +kernel
    rw [listed]
    simp [ModelRecord.NullFree,ModelParams.NullFree,OllamaOptions.NullFree,guarded,foreign]
  have parsed : ∀ id r, twoOwners.models.get? id = some r → Json.Codec.modelRecord.Reads r := fun id r found =>
    Json.Codec.modelRecord_faithful.reads_valid (fine (id,r) (Keyed.get?_mem found))
  have answered : ((exportFor (.user "alice")).run memory twoOwners).1 = .ok [guarded] :=
    Json.ok_of_toOption (by decide +kernel)
  obtain ⟨records,items,taken,-,-,read,-,imported⟩ :=
    export_is_backup memory_mirrors trivial sound parsed (.user "alice") (.user "bob") now
  cases answered.symm.trans taken
  obtain ⟨created,stamped⟩ :=
    (imported DocumentStore.reliable_mirrors (⟨["s.json"],.empty⟩,⟨∅⟩) blank_writable).1 rfl
  obtain ⟨updated,kept⟩ := (imported memory_mirrors twoOwners trivial).2 rfl
  refine ⟨items,answered,read,created,?_,updated,?_⟩
  · rw [stamped]
    decide +kernel
  · change (Contents.models (id _)).values = _
    rw [kept]
    decide +kernel

end ModelCatalog.Registry
