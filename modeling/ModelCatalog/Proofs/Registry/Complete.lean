import ModelCatalog.Proofs.Registry.Keywise

namespace ModelCatalog
open Ordered Json

theorem ModelForm.read_fields {m : Medium} {node : Node} {form : ModelForm}
    (read : Codec.formLayout.read "ModelForm" m node = .ok form.fields) : Codec.modelForm.read m node = .ok form :=
  congrArg (Except.map _) read

theorem ModelRecord.read_form {m : Medium} {r : ModelRecord} (fine : r.NullFree)
    (room : m.Admits (Codec.modelRecord.write r).depth) :
    Codec.modelForm.read m (.ofTree (Codec.modelRecord.write r)) = .ok r.toForm := by
  have read : Codec.formLayout.read "ModelForm" m (.ofTree (.object (Codec.modelRecord.write r).members)) =
      .ok r.toForm.fields := by
    refine Codec.formLayout_lawful.read_written "ModelForm" ?_ (ModelImport.record_distinct r) room
      (ModelImport.record_members r)
    exact ⟨trivial,trivial,trivial,trivial,fine,trivial,trivial,trivial,trivial⟩
  exact ModelForm.read_fields read

theorem ModelRecord.readTree_form {r : ModelRecord} (fine : r.NullFree) :
    Codec.modelForm.readTree (Value.ofTree (Codec.modelRecord.write r)).tree = .ok r.toForm := by
  have tree : (Value.ofTree (Codec.modelRecord.write r)).tree =
      .object (Keyed.ofList (Tree.normalizeMembers (Codec.modelRecord.write r).members)).entries := rfl
  have read : Codec.formLayout.read "ModelForm" .tree (.ofTree (.object (Keyed.ofList (Tree.normalizeMembers
      (Codec.modelRecord.write r).members)).entries)) = .ok r.toForm.fields := by
    refine Codec.formLayout_lawful.read_carried "ModelForm" ?_ (Keyed.keys_distinct _) fun name key => ?_
    · exact ⟨trivial,trivial,trivial,trivial,fine,trivial,trivial,trivial,trivial⟩
    · rw [Layout.find?_normalized (ModelImport.record_distinct r),ModelImport.record_members r name key]
      rfl
  rw [tree]
  exact ModelForm.read_fields read

namespace Registry
open Store Action

section
variable {live : σ → Contents} {backend : Backend σ} {st : σ} {form : ModelForm}

theorem ofForm_id (fine : form.NullFree) : (ModelImport.ofForm form).id = form.id :=
  (ModelImport.toForm_id ((ModelImport.ofForm_carries form).toForm fine)).symm

theorem importItem_updates (atomic : Atomic live backend) (fine : form.NullFree) (valid : ValidId form.id)
    (stored : (live st).models.contains form.id = true) (importer admin : Caller) (full : admin.isAdmin = true)
    (now : Timestamp) :
    (importItem importer now ⟨0,0,0⟩ (.ofForm form)).run backend st =
      ((fun _ => ⟨0,1,0⟩) <$> update admin form.id form now : Action ImportSummary).run backend st := by
  rw [importItem_made,ofForm_id fine,if_pos valid,update_gated,gated,load,map_bind,bind_assoc]
  refine run_ask_congr fun found answered => ?_
  have there : (live st).models.get? form.id = found :=
    congrArg Prod.fst (Except.ok.inj (atomic.granted answered))
  obtain ⟨r,held⟩ := Option.isSome_iff_exists.mp stored
  have whole : made importer now (.ofForm form) (some r) = .ok (r.applyForm form now) := by
    rw [made,(ModelImport.ofForm_carries form).overlay fine r]
    rfl
  have admitted : authorize admin r .write = .ok () := by simp [authorize,full]
  cases there.symm.trans held
  dsimp only
  rw [whole,pure_bind,map_bind,admitted,map_eq_pure_bind]
  rfl

end

-- A complete form says the same on every way in: as an item of a batch, alone and over any stored model, and as an
-- update by an administrator of the model that is stored under its id, whatever calls the store refuses. The form of a
-- model is also what the model's own object is read as, and saying it of the model changes nothing but its last change.
theorem complete_form_means_one_thing :
    (∀ form, Codec.modelForm.Reads form → (ModelImport.ofForm form).toForm = .ok form ∧
      ∀ existing, (ModelImport.ofForm form).overlay existing = .ok form) ∧
    (∀ {σ : Type} {live : σ → Contents} {backend : Backend σ}, Atomic live backend → ∀ st form,
      Codec.modelForm.Reads form → ValidId form.id → (live st).models.contains form.id = true →
      ∀ (importer admin : Caller) now, admin.isAdmin = true →
        let updated := (update admin form.id form now).run backend st
        (importItems importer [.ofForm form] now).run backend st = (updated.1.map fun _ => ⟨0,1,0⟩,updated.2)) ∧
    ∀ r, Codec.modelRecord.Reads r →
      (∀ m : Medium, m.Admits (Codec.modelRecord.write r).depth →
        Codec.modelForm.read m (.ofTree (Codec.modelRecord.write r)) = .ok r.toForm) ∧
      Codec.modelForm.readTree (Value.ofTree (Codec.modelRecord.write r)).tree = .ok r.toForm ∧
      ((Codec.modelRecord.write r).Exact → (Codec.modelRecord.write r).depth ≤ 127 →
        Codec.modelForm.readText (Codec.modelRecord.write r).pretty = .ok r.toForm) ∧
      ∀ now, r.applyForm r.toForm now = { r with updatedAt := now } := by
  refine ⟨fun form parsed => ?_,fun atomic st form parsed valid stored importer admin now full => ?_,fun r parsed => ?_⟩
  · have fine : form.NullFree := Codec.modelForm_faithful.valid_reads parsed
    have carries := ModelImport.ofForm_carries form
    exact ⟨carries.toForm fine,carries.overlay fine⟩
  · have fine : form.NullFree := Codec.modelForm_faithful.valid_reads parsed
    intro updated
    rw [importItems_one,importItem_updates atomic fine valid stored importer admin full now]
    exact run_map _ _ st
  · have fine : r.NullFree := Codec.modelRecord_faithful.valid_reads parsed
    refine ⟨fun m => ModelRecord.read_form fine,ModelRecord.readTree_form fine,fun exact shallow => ?_,fun now => rfl⟩
    rw [Codec.readText_ok,Node.read_pretty _ exact]
    exact ⟨ModelRecord.read_form fine shallow,rfl⟩

-- A form with another name, without parameters and with another owner, over the model that it was made from.
def renamed : ModelForm := { guarded.toForm with name := "Renamed",params := {},owner := some "carol" }

theorem renamed_model_agrees :
    let updated := (update (.admin "root") renamed.id renamed arrival).run memory twoOwners
    Codec.modelForm.Reads renamed ∧ ValidId renamed.id ∧ twoOwners.models.contains renamed.id = true ∧
      Codec.modelRecord.Reads guarded ∧ (Codec.modelRecord.write guarded).Exact ∧
      (Codec.modelRecord.write guarded).depth ≤ 127 ∧
      (ModelImport.ofForm renamed).overlay foreign = .ok renamed ∧
      (importItems (.user "bob") [.ofForm renamed] arrival).run memory twoOwners = (.ok ⟨0,1,0⟩,updated.2) ∧
      updated.2.models.get? "a" =
        some { guarded with name := "Renamed",params := {},owner := "carol",updatedAt := arrival } ∧
      Codec.modelForm.readText (Codec.modelRecord.write guarded).pretty = .ok guarded.toForm := by
  have parsed : Codec.modelForm.Reads renamed := Codec.modelForm_faithful.reads_valid
    (by simp [ModelForm.NullFree,ModelParams.NullFree,OllamaOptions.NullFree,renamed])
  have recorded : Codec.modelRecord.Reads guarded := Codec.modelRecord_faithful.reads_valid
    (by simp [ModelRecord.NullFree,ModelParams.NullFree,OllamaOptions.NullFree,guarded])
  have valid : ValidId renamed.id := by decide_cbv
  have stored : twoOwners.models.contains renamed.id = true := by cbv
  have exact : (Codec.modelRecord.write guarded).Exact := by decide_cbv
  have shallow : (Codec.modelRecord.write guarded).depth ≤ 127 := by decide_cbv
  have done : ((update (.admin "root") renamed.id renamed arrival).run memory twoOwners).1.map
      (fun _ => (⟨0,1,0⟩ : ImportSummary)) = .ok ⟨0,1,0⟩ := by
    cbv
  have seen : ((update (.admin "root") renamed.id renamed arrival).run memory twoOwners).2.models.get? "a" =
      some { guarded with name := "Renamed",params := {},owner := "carol",updatedAt := arrival } := by
    cbv
  intro updated
  obtain ⟨alone,imported,forms⟩ := complete_form_means_one_thing
  obtain ⟨-,-,text,-⟩ := forms guarded recorded
  have same := imported memory_serves.atomic twoOwners renamed parsed valid stored (.user "bob") (.admin "root")
    arrival rfl
  refine ⟨parsed,valid,stored,recorded,exact,shallow,(alone renamed parsed).2 foreign,?_,seen,text exact shallow⟩
  exact same.trans (congrArg (·,updated.2) done)

def nobodyRenamed : ModelForm := { nobody.toForm with name := "New" }

-- Of the model whose id is empty the two differ: the update changes it, and the item is passed over.
theorem nameless_form_differs :
    let imported := (importItems (.admin "root") [.ofForm nobodyRenamed] arrival).run memory nobodyStored
    let updated := (update (.admin "root") nobodyRenamed.id nobodyRenamed arrival).run memory nobodyStored
    (∃ text, decode text = .ok nobodyStored) ∧ Codec.modelForm.Reads nobodyRenamed ∧
      nobodyStored.models.contains nobodyRenamed.id = true ∧ imported = (.ok ⟨0,0,1⟩,nobodyStored) ∧
      updated.2.models.get? nobodyRenamed.id = some { nobody with name := "New",updatedAt := arrival } ∧
      imported.2 ≠ updated.2 := by
  have parsed : Codec.modelForm.Reads nobodyRenamed := Codec.modelForm_faithful.reads_valid
    (by simp [ModelForm.NullFree,ModelParams.NullFree,OllamaOptions.NullFree,nobody,nobodyRenamed,ModelRecord.toForm])
  have passed : (importItems (.admin "root") [.ofForm nobodyRenamed] arrival).run memory nobodyStored =
      (.ok ⟨0,0,1⟩,nobodyStored) := by
    cbv
  have seen : ((update (.admin "root") nobodyRenamed.id nobodyRenamed arrival).run memory nobodyStored).2.models.get?
      nobodyRenamed.id = some { nobody with name := "New",updatedAt := arrival } := by
    cbv
  intro imported updated
  have kept : imported.2.models.get? nobodyRenamed.id = some nobody :=
    congrArg (fun outcome => outcome.2.models.get? "") passed
  refine ⟨⟨_,nobody_decoded⟩,parsed,by cbv,passed,seen,fun same => ?_⟩
  rw [same,seen] at kept
  exact absurd (congrArg ModelRecord.name (Option.some.inj kept)) (by decide)

end Registry
end ModelCatalog
