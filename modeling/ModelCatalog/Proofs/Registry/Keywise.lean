import ModelCatalog.Proofs.Model.Change
import ModelCatalog.Proofs.Registry.Batch

namespace ModelCatalog.Registry
open Ordered Json Store Action

section
variable {c : Caller} {now : Timestamp} {item : ModelImport} {s : Contents} {r r' : ModelRecord}

theorem made_stored (valid : ValidId item.id) (fine : r.NullFree) :
    made c now item (some r) = .ok r' ↔ ∃ change, item.States change ∧ r' = change.apply now r :=
  ModelImport.overlay_ok valid.1 fine

theorem importItem_rewrites (first : ImportSummary) (found : s.models.get? item.id = some r) (own : r.id = item.id)
    (valid : ValidId item.id) (fine : r.NullFree) {change : ModelChange} (stated : item.States change) :
    (importItem c now first item).Yields s (first.plus ⟨0,1,0⟩)
      { s with models := s.models.insert item.id (change.apply now r) } := by
  have whole : made c now item (s.models.get? item.id) = .ok (change.apply now r) := by
    rw [found]
    exact (made_stored valid fine).mpr ⟨change,stated,rfl⟩
  have takes : Takes c (item,now) s _ _ := .taken valid whole
  rw [Keyed.contains,found] at takes
  refine importItem_yields first (fun old there => ?_) takes
  cases found.symm.trans there
  exact own

theorem importItem_unread (first : ImportSummary) (found : s.models.get? item.id = some r) (own : r.id = item.id)
    (valid : ValidId item.id) (fine : r.NullFree) (unread : ¬ item.Parses) :
    ∃ e, (importItem c now first item).run memory s = (.error e,s) := by
  refine importItem_fails first (fun old there => ?_) fun counted s' takes => ?_
  · cases found.symm.trans there
    exact own
  · cases takes with
    | skipped unfit => exact unfit valid
    | taken _ whole =>
      dsimp only at whole
      rw [found] at whole
      obtain ⟨change,stated,-⟩ := (made_stored valid fine).mp whole
      exact unread (ModelImport.parses_iff.mpr ⟨change,stated⟩)

theorem importItems_one (c : Caller) (item : ModelImport) (now : Timestamp) :
    importItems c [item] now = importItem c now ⟨0,0,0⟩ item := by
  rw [importItems_eq]
  exact importEach_one c (item,now)

theorem import_one {live : σ → Contents} {backend : Backend σ} {good : σ → Prop} (mirrors : Mirrors live backend good)
    {st : σ} (order : good st) (found : (live st).models.get? item.id = some r) (own : r.id = item.id)
    (valid : ValidId item.id) (fine : r.NullFree) (c : Caller) (now : Timestamp) :
    let outcome := (importItems c [item] now).run backend st
    (∀ change, item.States change → outcome.1 = .ok ⟨0,1,0⟩ ∧
      live outcome.2 = { live st with models := (live st).models.insert item.id (change.apply now r) }) ∧
    (¬ item.Parses → (∃ e, outcome.1 = .error e) ∧ live outcome.2 = live st) := by
  intro outcome
  have mirrored : (importItems c [item] now).run memory (live st) = (outcome.1,live outcome.2) :=
    (mirrors.run (ExceptT.run (importItems c [item] now)) order).1
  rw [importItems_one] at mirrored
  constructor
  · intro change stated
    exact Prod.mk.inj (mirrored.symm.trans (importItem_rewrites ⟨0,0,0⟩ found own valid fine stated))
  · intro unread
    obtain ⟨e,failed⟩ := importItem_unread ⟨0,0,0⟩ found own valid fine unread
    obtain ⟨result,kept⟩ := Prod.mk.inj (mirrored.symm.trans failed)
    exact ⟨⟨e,result⟩,kept⟩

theorem import_alike {live : σ → Contents} {backend : Backend σ} {good : σ → Prop} (mirrors : Mirrors live backend good)
    {st : σ} (order : good st) (found : (live st).models.get? item.id = some r) (own : r.id = item.id)
    (valid : ValidId item.id) (fine : r.NullFree) (c : Caller) (now : Timestamp) {other : ModelImport}
    (same : ∀ name ∈ Codec.formLayout.names, other.members.get? name = item.members.get? name) :
    let outcome := (importItems c [item] now).run backend st
    let alike := (importItems c [other] now).run backend st
    alike.1.toOption = outcome.1.toOption ∧ live alike.2 = live outcome.2 := by
  intro outcome alike
  have named : other.id = item.id := by
    unfold ModelImport.id
    rw [same "id" (by decide)]
  have back : ∀ change, other.States change → item.States change := fun change stated =>
    stated.congr fun name key => (same name key).symm
  obtain ⟨taken,refused⟩ := import_one mirrors order found own valid fine c now
  obtain ⟨taken',refused'⟩ :=
    import_one mirrors order (named ▸ found) (own.trans named.symm) (named ▸ valid) fine c now
  by_cases parses : item.Parses
  · obtain ⟨change,stated⟩ := ModelImport.parses_iff.mp parses
    obtain ⟨done,contents⟩ := taken change stated
    obtain ⟨done',contents'⟩ := taken' change (stated.congr same)
    rw [done,done',contents,contents',named]
    exact ⟨rfl,rfl⟩
  · have parses' : ¬ other.Parses := fun parses' => by
      obtain ⟨change,stated⟩ := ModelImport.parses_iff.mp parses'
      exact parses (ModelImport.parses_iff.mpr ⟨change,back change stated⟩)
    obtain ⟨⟨e,failed⟩,kept⟩ := refused parses
    obtain ⟨⟨e',failed'⟩,kept'⟩ := refused' parses'
    rw [failed,failed',kept,kept']
    exact ⟨rfl,rfl⟩

end

-- An item is laid over the stored model of its id key by key: it is taken in if each key of a form that it carries is
-- read for itself, and then the model says what these keys say, and all else as before. Null is a value for the model
-- that it is based on and for who may use it, and says nothing of an owner. Keys that no form has do not count, and an
-- item that is not taken in changes nothing.
theorem import_overlays_key_by_key {live : σ → Contents} {backend : Backend σ} {good : σ → Prop}
    (mirrors : Mirrors live backend good) (st : σ) (order : good st) {r : ModelRecord} {item : ModelImport}
    (found : (live st).models.get? r.id = some r) (parsed : Codec.modelRecord.Reads r) (own : item.id = r.id)
    (valid : ValidId r.id) (c : Caller) (now : Timestamp) :
    let outcome := (importItems c [item] now).run backend st
    ((∃ summary, outcome.1 = .ok summary) ↔ item.Parses) ∧
      (item.Parses → outcome.1 = .ok ⟨0,1,0⟩ ∧ ∃ r',
        live outcome.2 = { live st with models := (live st).models.insert r.id r' } ∧
        (∀ other, item.Rewrites now r other ↔ other = r') ∧
        (item.members.get? "base_model_id" = some .null → r'.baseModelId = none) ∧
        (item.members.get? "access_control" = some .null → r'.access = none) ∧
        (item.members.get? "user_id" = some .null → r'.owner = r.owner)) ∧
      (¬ item.Parses → live outcome.2 = live st) ∧
      ∀ other : ModelImport, (∀ name ∈ Codec.formLayout.names, other.members.get? name = item.members.get? name) →
        let alike := (importItems c [other] now).run backend st
        alike.1.toOption = outcome.1.toOption ∧ live alike.2 = live outcome.2 := by
  intro outcome
  have fine : r.NullFree := Codec.modelRecord_faithful.valid_reads parsed
  obtain ⟨taken,refused⟩ := import_one mirrors order (own ▸ found) own.symm (own ▸ valid) fine c now
  refine ⟨⟨?_,?_⟩,?_,fun unread => (refused unread).2,?_⟩
  · rintro ⟨summary,done⟩
    by_contra unread
    obtain ⟨e,failed⟩ := (refused unread).1
    cases done.symm.trans failed
  · intro parses
    obtain ⟨change,stated⟩ := ModelImport.parses_iff.mp parses
    exact ⟨_,(taken change stated).1⟩
  · intro parses
    obtain ⟨change,stated⟩ := ModelImport.parses_iff.mp parses
    obtain ⟨done,contents⟩ := taken change stated
    have rewritten : item.Rewrites now r (change.apply now r) := stated.rewrites.mpr rfl
    refine ⟨done,change.apply now r,?_,fun other => stated.rewrites,rewritten.baseModelId.null,rewritten.access.null,?_⟩
    · rw [contents,own]
    · intro null
      obtain ⟨owner,set,same⟩ := rewritten.owner
      rw [same,set.null null]
      rfl
  · intro other same
    exact import_alike mirrors order (own ▸ found) own.symm (own ▸ valid) fine c now same

-- Three keys with null, a name, and a key that no form has.
def reset : ModelImport := ⟨.ofList [("id",.text "a"),("base_model_id",.null),("access_control",.null),("user_id",.null),
  ("name",.text "New"),("color",.text "red")]⟩

theorem guarded_model_reset :
    let outcome := (importItems (.user "bob") [reset] arrival).run memory twoOwners
    twoOwners.models.get? guarded.id = some guarded ∧ Codec.modelRecord.Reads guarded ∧ reset.id = guarded.id ∧
      ValidId guarded.id ∧ outcome.1 = .ok ⟨0,1,0⟩ ∧ ∃ r', outcome.2.models.get? "a" = some r' ∧
        reset.Rewrites arrival guarded r' ∧ r'.baseModelId = none ∧ r'.access = none ∧ r'.owner = "alice" ∧
        r' = { guarded with baseModelId := none,access := none,name := "New",updatedAt := arrival } := by
  have found : twoOwners.models.get? guarded.id = some guarded := by cbv
  have parsed : Codec.modelRecord.Reads guarded := Codec.modelRecord_faithful.reads_valid
    (by simp [ModelRecord.NullFree,ModelParams.NullFree,OllamaOptions.NullFree,guarded])
  have own : reset.id = guarded.id := by cbv
  have valid : ValidId guarded.id := by decide_cbv
  have done : ((importItems (.user "bob") [reset] arrival).run memory twoOwners).1 = .ok ⟨0,1,0⟩ := by cbv
  have seen : ((importItems (.user "bob") [reset] arrival).run memory twoOwners).2.models.get? "a" =
      some { guarded with baseModelId := none,access := none,name := "New",updatedAt := arrival } := by
    cbv
  intro outcome
  obtain ⟨taken,overlaid,-,-⟩ :=
    import_overlays_key_by_key memory_mirrors twoOwners trivial found parsed own valid (.user "bob") arrival
  obtain ⟨-,r',contents,only,based,access,owner⟩ := overlaid (taken.mp ⟨_,done⟩)
  have held : outcome.2.models.get? "a" = some r' :=
    (congrArg (fun s : Contents => s.models.get? "a") contents).trans ((Keyed.get?_insert _ _ _ _).trans (if_pos rfl))
  refine ⟨found,parsed,own,valid,done,r',held,(only r').mpr rfl,based (by cbv),access (by cbv),owner (by cbv),?_⟩
  exact Option.some.inj (held.symm.trans seen)

-- A document may hold a model whose id is empty. No item can name that one.
def nobody : ModelRecord where
  id := ""
  owner := "bob"
  baseModelId := none
  name := "One"
  params := {}
  info := {}
  access := none
  isActive := true
  createdAt := ⟨41,by decide⟩
  updatedAt := ⟨41,by decide⟩

def nobodyStored : Contents := { Contents.empty with models := .ofList [("",nobody)] }

theorem nobody_decoded :
    decode ("\x7b\"version\":1,\"models\":[\x7b\"id\":\"\",\"user_id\":\"bob\",\"name\":\"One\"," ++
      "\"created_at\":41,\"updated_at\":41\x7d]\x7d") = .ok nobodyStored := by
  cbv

theorem withName_parses (id name : String) : (withName id name).Parses := by
  have absent {α : Type} {key : String} {codec : Codec α} (other : key ≠ "id" ∧ key ≠ "name") :
      (withName id name).Legible key codec := by
    refine .absent ?_
    rw [withName,Keyed.get?_ofList]
    simp [Entries.find?,other]
  refine ⟨absent (by decide),fun value held => ?_,absent (by decide),absent (by decide),absent (by decide),
    absent (by decide),absent (by decide)⟩
  rw [withName,Keyed.get?_ofList] at held
  cases held
  exact ⟨name,rfl⟩

-- So an item with this id is passed over, though all its keys are read: the model does not get the name.
theorem nameless_model_kept :
    let item := withName "" "New"
    let outcome := (importItems (.user "bob") [item] arrival).run memory nobodyStored
    (∃ text, decode text = .ok nobodyStored) ∧ nobodyStored.models.get? nobody.id = some nobody ∧
      Codec.modelRecord.Reads nobody ∧ item.id = nobody.id ∧ item.Parses ∧ outcome = (.ok ⟨0,0,1⟩,nobodyStored) ∧
      ¬ item.Rewrites arrival nobody nobody := by
  have parsed : Codec.modelRecord.Reads nobody := Codec.modelRecord_faithful.reads_valid
    (by simp [ModelRecord.NullFree,ModelParams.NullFree,OllamaOptions.NullFree,nobody])
  have done : (importItems (.user "bob") [withName "" "New"] arrival).run memory nobodyStored =
      (.ok ⟨0,0,1⟩,nobodyStored) := by
    cbv
  refine ⟨⟨_,nobody_decoded⟩,by cbv,parsed,by cbv,withName_parses _ _,done,fun rewritten => ?_⟩
  have named : "New" = "One" := Except.ok.inj (rewritten.name.read (.text "New") (by cbv))
  exact absurd named (by decide)

end ModelCatalog.Registry
