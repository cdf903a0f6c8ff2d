import ModelCatalog.Model.Import
import ModelCatalog.Proofs.Model.Codec

namespace ModelCatalog
open Ordered Json

namespace Json

theorem Layout.read_first {f : Field α} {rest : Layout β σ} {members : List (Option String × Node)} {a : α} {values : β}
    (read : (Layout.field f rest).read type m (.object members stop) = .ok (a,values)) :
    f.missing = .ok a ∨ ∃ inner node, (some f.name,node) ∈ members ∧ f.codec.read inner node = .ok a := by
  simp only [Layout.read,bind_ok] at read
  obtain ⟨inner,-,⟨slot,slots⟩,inside,-,-,settled⟩ := read
  rw [settle_field,bind_ok] at settled
  obtain ⟨b,taken,settled⟩ := settled
  obtain ⟨others,-,same⟩ := map_ok.mp settled
  cases same
  cases slot with
  | none => exact .inl taken
  | some c =>
    cases taken
    obtain ⟨node,member,found⟩ := ((fold_field inside).2 a rfl).resolve_left fun empty => by cases empty
    exact .inr ⟨inner,node,member,found⟩

theorem Codec.text_read {node : Node} {s : String} (read : Codec.text.read m node = .ok s) : node = .text (some s) := by
  unfold Codec.text at read
  dsimp only at read
  split at read
  · cases read
    rfl
  · cases read

theorem Node.ofTree_text {t : Tree} {s : String} (same : Node.ofTree t = .text (some s)) : t = .text s := by
  cases t <;> cases same
  rfl

def Tree.members : Tree → List (String × Tree)
  | .object members => members
  | _ => []

end Json

namespace ModelImport

theorem toForm_id {item : ModelImport} {form : ModelForm} (read : item.toForm = .ok form) : form.id = item.id := by
  obtain ⟨⟨id,others⟩,inside,rfl⟩ := map_ok.mp (mapError_ok.mp read)
  rcases Layout.read_first inside with none | ⟨inner,node,member,found⟩
  · cases none
  · obtain ⟨source,stored,same⟩ := Layout.mem_ofMembers member
    obtain ⟨⟨key,value⟩,there,rfl⟩ := List.mem_map.mp stored
    cases Codec.text_read found
    obtain ⟨named,content⟩ := Prod.mk.inj same
    cases named
    have held : item.members.get? "id" = some value := Keyed.mem_get? there
    have tree : value.tree = .text id := Node.ofTree_text content.symm
    have text : value.text? = some id := by rw [Value.text?,tree]
    change id = _
    rw [ModelImport.id,held,Option.bind_some,text,Option.getD_some]

-- An item that carries every member of a written form, and may carry others.
def Carries (item : ModelImport) (form : ModelForm) : Prop :=
  ∀ name ∈ Codec.formLayout.names,(item.members.get? name).map Value.tree =
    (Entries.find? name (Codec.modelForm.write form).members).map Tree.normalize

theorem form_written (form : ModelForm) : ∀ name ∈ Codec.formLayout.names,
    (Entries.find? name (Codec.modelForm.write form).members).isSome = true := by
  simp [Codec.formLayout,Layout.names,Codec.modelForm,Layout.codec,Layout.write,Tree.members,Entries.find?,
    Field.required,Field.defaulted]

theorem Carries.held {item : ModelImport} {form : ModelForm} (carries : item.Carries form)
    (field : name ∈ Codec.formLayout.names) : ∃ value, item.members.get? name = some value := by
  have found := carries name field
  cases held : item.members.get? name with
  | some value => exact ⟨value,rfl⟩
  | none =>
    have written := form_written form name field
    rw [held] at found
    rw [← Option.isSome_map (f := Tree.normalize),← found] at written
    cases written

theorem read_carried {members : Extensions} {form : ModelForm} (carries : Carries ⟨members⟩ form)
    (fine : form.NullFree) : Codec.modelForm.readTree members.toValue.tree = .ok form := by
  have read : Codec.formLayout.read "ModelForm" .tree (.ofTree members.toValue.tree) = .ok
      (form.id,form.baseModelId,form.name,form.info,form.params,form.access,form.isActive,form.owner,()) := by
    refine Codec.formLayout_lawful.read_carried "ModelForm" ?_ (members.map Value.tree).keys_distinct fun name field => ?_
    · exact ⟨trivial,trivial,trivial,trivial,fine,trivial,trivial,trivial,trivial⟩
    · exact (Keyed.get?_map members Value.tree name).trans (carries name field)
  exact congrArg (Except.map _) read

theorem Carries.toForm {item : ModelImport} {form : ModelForm} (carries : item.Carries form) (fine : form.NullFree) :
    item.toForm = .ok form := by
  rw [ModelImport.toForm,read_carried carries fine]
  rfl

theorem Carries.overlay {item : ModelImport} {form : ModelForm} (carries : item.Carries form) (fine : form.NullFree)
    (stored : ModelRecord) : item.overlay stored = .ok form := by
  have merged : Carries ⟨(ofForm stored.toForm).members.insertAll item.members.entries⟩ form := by
    intro name field
    obtain ⟨value,held⟩ := carries.held field
    rw [← carries name field,Keyed.get?_insertAll,Entries.find?_reverse item.members.keys_distinct]
    change ((item.members.get? name).or _).map Value.tree = _
    rw [held]
    rfl
  rw [ModelImport.overlay,read_carried merged fine]
  rfl

def ofRecord (r : ModelRecord) : ModelImport :=
  ⟨.ofList ((Codec.modelRecord.write r).members.map fun member => (member.1,.ofTree member.2))⟩

theorem record_distinct (r : ModelRecord) : ((Codec.modelRecord.write r).members.map (·.1)).Nodup := by
  simp [Codec.modelRecord,Layout.codec,Layout.write,Tree.members,Field.required,Field.defaulted]

theorem record_members (r : ModelRecord) : ∀ name ∈ Codec.formLayout.names,
    Entries.find? name (Codec.modelRecord.write r).members =
      Entries.find? name (Codec.modelForm.write r.toForm).members := by
  simp [Codec.formLayout,Layout.names,Codec.modelForm,Codec.modelRecord,Layout.codec,Layout.write,Tree.members,
    Entries.find?,Field.required,Field.defaulted,ModelRecord.toForm,Codec.option]

theorem ofRecord_get? (r : ModelRecord) (name : String) : (ofRecord r).members.get? name =
    (Entries.find? name (Codec.modelRecord.write r).members).map Value.ofTree := by
  have distinct : (((Codec.modelRecord.write r).members.map fun member => (member.1,Value.ofTree member.2)).map
      (·.1)).Nodup := by
    rw [List.map_map]
    exact record_distinct r
  rw [ofRecord,Keyed.get?_ofList_distinct distinct,Entries.find?_map]

theorem ofRecord_carries (r : ModelRecord) : (ofRecord r).Carries r.toForm := by
  intro name field
  rw [ofRecord_get?,record_members r name field,Option.map_map]
  rfl

theorem ofRecord_id (r : ModelRecord) : (ofRecord r).id = r.id := by
  rw [ModelImport.id,ofRecord_get?]
  rfl

theorem read_record (m : Medium) (r : ModelRecord) :
    Codec.modelImport.read m (.ofTree (Codec.modelRecord.write r)) =
      m.within (Codec.modelRecord.write r).depth (ofRecord r) := by
  change (Codec.extensions.read m (.ofTree (.object (Codec.modelRecord.write r).members))).map ModelImport.mk = _
  rw [Codec.extensions_read,Medium.map_within]
  rfl

theorem read_records (m : Medium) (records : List ModelRecord) :
    (Codec.list Codec.modelImport).read m (.ofTree ((Codec.list Codec.modelRecord).write records)) =
      m.within ((Codec.list Codec.modelRecord).write records).depth (records.map ofRecord) :=
  Codec.list_ofItems Codec.modelRecord.write ofRecord records (fun m r _ => read_record m r) m

end ModelImport
end ModelCatalog
