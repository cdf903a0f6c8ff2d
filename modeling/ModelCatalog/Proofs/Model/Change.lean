import ModelCatalog.Proofs.Json.Slots
import ModelCatalog.Proofs.Model.Import

namespace ModelCatalog
open Ordered Json

-- What is said of a model, field by field; a field of which nothing is said stays as it is. There is no way to say that
-- a model has no owner.
structure ModelChange where
  baseModelId : Option (Option String)
  name : Option String
  info : Option ModelMeta
  params : Option ModelParams
  access : Option (Option AccessControl)
  isActive : Option Bool
  owner : Option String

namespace ModelChange
variable {now : Timestamp} {r : ModelRecord}

def apply (change : ModelChange) (now : Timestamp) (r : ModelRecord) : ModelRecord :=
  { r with
    owner := change.owner.getD r.owner
    baseModelId := change.baseModelId.getD r.baseModelId
    name := change.name.getD r.name
    params := change.params.getD r.params
    info := change.info.getD r.info
    access := change.access.getD r.access
    isActive := change.isActive.getD r.isActive
    updatedAt := now }

-- Both of two changes in one: of what both say something, the later one counts.
def andThen (first second : ModelChange) : ModelChange where
  baseModelId := second.baseModelId.or first.baseModelId
  name := second.name.or first.name
  info := second.info.or first.info
  params := second.params.or first.params
  access := second.access.or first.access
  isActive := second.isActive.or first.isActive
  owner := second.owner.or first.owner

theorem apply_andThen (first second : ModelChange) (now : Timestamp) (r : ModelRecord) :
    (first.andThen second).apply now r = second.apply now (first.apply now r) := by
  simp only [apply,andThen,Option.getD_or]

theorem getD_again (told : Option α) (a : α) : told.getD (told.getD a) = told.getD a := by
  cases told <;> rfl

theorem apply_again (change : ModelChange) (now : Timestamp) (r : ModelRecord) :
    change.apply now (change.apply now r) = change.apply now r := by
  simp only [apply,getD_again]

def applyAll (now : Timestamp) (changes : List ModelChange) (r : ModelRecord) : ModelRecord :=
  changes.foldl (fun r change => change.apply now r) r

theorem applyAll_one (now : Timestamp) (first : ModelChange) (changes : List ModelChange) :
    ∃ change, ∀ r, applyAll now (first :: changes) r = ModelChange.apply change now r := by
  induction changes generalizing first with
  | nil => exact ⟨first,fun r => rfl⟩
  | cons second rest ih =>
    obtain ⟨change,all⟩ := ih (first.andThen second)
    refine ⟨change,fun r => ?_⟩
    rw [← all r,applyAll,applyAll,List.foldl_cons,List.foldl_cons,List.foldl_cons,apply_andThen]

theorem applyAll_again (now : Timestamp) (changes : List ModelChange) (r : ModelRecord) :
    applyAll now changes (applyAll now changes r) = applyAll now changes r := by
  cases changes with
  | nil => rfl
  | cons first rest =>
    obtain ⟨change,all⟩ := applyAll_one now first rest
    rw [all,all,apply_again]

end ModelChange

def ModelRecord.blank (id owner : String) (now : Timestamp) : ModelRecord where
  id := id
  owner := owner
  baseModelId := none
  name := ""
  params := {}
  info := {}
  access := none
  isActive := true
  createdAt := now
  updatedAt := now

def ModelForm.fields (f : ModelForm) : String × Option String × String × ModelMeta × ModelParams × Option AccessControl
    × Bool × Option String × Unit :=
  (f.id,f.baseModelId,f.name,f.info,f.params,f.access,f.isActive,f.owner,())

namespace ModelImport
variable {item : ModelImport} {form : ModelForm} {r r' : ModelRecord} {now : Timestamp}

def told (item : ModelImport) (name : String) (codec : Codec α) : Except Fault (Option α) :=
  match item.members.get? name with
  | some value => (codec.readTree value.tree).map some
  | none => .ok none

structure States (item : ModelImport) (change : ModelChange) : Prop where
  baseModelId : item.told "base_model_id" (Codec.option Codec.text) = .ok change.baseModelId
  name : item.told "name" Codec.text = .ok change.name
  info : item.told "meta" Codec.modelMeta = .ok change.info
  params : item.told "params" Codec.modelParams = .ok change.params
  access : item.told "access_control" (Codec.option Codec.accessControl) = .ok change.access
  isActive : item.told "is_active" Codec.bool = .ok change.isActive
  owner : (item.told "user_id" (Codec.option Codec.text)).map Option.join = .ok change.owner

def stated (item : ModelImport) : ModelChange where
  baseModelId := (item.told "base_model_id" (Codec.option Codec.text)).toOption.join
  name := (item.told "name" Codec.text).toOption.join
  info := (item.told "meta" Codec.modelMeta).toOption.join
  params := (item.told "params" Codec.modelParams).toOption.join
  access := (item.told "access_control" (Codec.option Codec.accessControl)).toOption.join
  isActive := (item.told "is_active" Codec.bool).toOption.join
  owner := ((item.told "user_id" (Codec.option Codec.text)).map Option.join).toOption.join

theorem States.eq_stated {change : ModelChange} (states : item.States change) : change = item.stated := by
  unfold stated
  rw [states.baseModelId,states.name,states.info,states.params,states.access,states.isActive,states.owner]
  rfl

-- What an item has under a name, if it has anything there, is read as a value.
def Legible (item : ModelImport) (name : String) (codec : Codec α) : Prop :=
  ∀ value, item.members.get? name = some value → ∃ a, codec.readTree value.tree = .ok a

-- A field behind another: what the item has under its name is read as, or what it was if the item has nothing there.
structure Sets (item : ModelImport) (name : String) (codec : Codec α) (old new : α) : Prop where
  read : ∀ value, item.members.get? name = some value → codec.readTree value.tree = .ok new
  kept : item.members.get? name = none → new = old

section
variable {name : String} {codec : Codec α} {slot : Option α} {old new : α}

theorem Legible.absent (absent : item.members.get? name = none) : item.Legible name codec :=
  fun value held => by cases absent.symm.trans held

theorem told_legible : item.Legible name codec ↔ ∃ slot, item.told name codec = .ok slot := by
  unfold Legible told
  cases item.members.get? name with
  | none => exact ⟨fun _ => ⟨none,rfl⟩,fun _ _ absent => by cases absent⟩
  | some value =>
    constructor
    · intro legible
      obtain ⟨a,read⟩ := legible value rfl
      exact ⟨some a,map_ok.mpr ⟨a,read,rfl⟩⟩
    · rintro ⟨slot,read⟩ _ same
      cases same
      obtain ⟨a,read,-⟩ := map_ok.mp read
      exact ⟨a,read⟩

theorem told_sets (told : item.told name codec = .ok slot) : item.Sets name codec old new ↔ new = slot.getD old := by
  unfold ModelImport.told at told
  cases held : item.members.get? name with
  | none =>
    rw [held] at told
    cases told
    exact ⟨fun sets => sets.kept held,fun same => ⟨fun _ there => (by cases held.symm.trans there),fun _ => same⟩⟩
  | some value =>
    rw [held] at told
    obtain ⟨a,read,rfl⟩ := map_ok.mp told
    constructor
    · intro sets
      exact Except.ok.inj ((sets.read value held).symm.trans read)
    · rintro rfl
      refine ⟨fun other there => ?_,fun absent => by cases held.symm.trans absent⟩
      cases held.symm.trans there
      exact read

end

structure Parses (item : ModelImport) : Prop where
  baseModelId : item.Legible "base_model_id" (Codec.option Codec.text)
  name : item.Legible "name" Codec.text
  info : item.Legible "meta" Codec.modelMeta
  params : item.Legible "params" Codec.modelParams
  access : item.Legible "access_control" (Codec.option Codec.accessControl)
  isActive : item.Legible "is_active" Codec.bool
  owner : item.Legible "user_id" (Codec.option Codec.text)

-- A record rewritten by an item, key by key. An owner that is no text leaves the one that was there.
structure Rewrites (item : ModelImport) (now : Timestamp) (r r' : ModelRecord) : Prop where
  id : r'.id = r.id
  createdAt : r'.createdAt = r.createdAt
  updatedAt : r'.updatedAt = now
  baseModelId : item.Sets "base_model_id" (Codec.option Codec.text) r.baseModelId r'.baseModelId
  name : item.Sets "name" Codec.text r.name r'.name
  info : item.Sets "meta" Codec.modelMeta r.info r'.info
  params : item.Sets "params" Codec.modelParams r.params r'.params
  access : item.Sets "access_control" (Codec.option Codec.accessControl) r.access r'.access
  isActive : item.Sets "is_active" Codec.bool r.isActive r'.isActive
  owner : ∃ owner, item.Sets "user_id" (Codec.option Codec.text) (some r.owner) owner ∧ r'.owner = owner.getD r.owner

theorem parses_iff : item.Parses ↔ ∃ change, item.States change := by
  constructor
  · rintro ⟨baseModelId,name,info,params,access,isActive,owner⟩
    obtain ⟨_,baseModelId⟩ := told_legible.mp baseModelId
    obtain ⟨_,name⟩ := told_legible.mp name
    obtain ⟨_,info⟩ := told_legible.mp info
    obtain ⟨_,params⟩ := told_legible.mp params
    obtain ⟨_,access⟩ := told_legible.mp access
    obtain ⟨_,isActive⟩ := told_legible.mp isActive
    obtain ⟨_,owner⟩ := told_legible.mp owner
    exact ⟨⟨_,_,_,_,_,_,_⟩,⟨baseModelId,name,info,params,access,isActive,congrArg (Except.map Option.join) owner⟩⟩
  · rintro ⟨change,stated⟩
    obtain ⟨_,owner,-⟩ := map_ok.mp stated.owner
    exact ⟨told_legible.mpr ⟨_,stated.baseModelId⟩,told_legible.mpr ⟨_,stated.name⟩,told_legible.mpr ⟨_,stated.info⟩,
      told_legible.mpr ⟨_,stated.params⟩,told_legible.mpr ⟨_,stated.access⟩,told_legible.mpr ⟨_,stated.isActive⟩,
      told_legible.mpr ⟨_,owner⟩⟩

theorem Sets.null {name : String} {codec : Codec α} {old new : Option α} (sets : item.Sets name (Codec.option codec) old new)
    (null : item.members.get? name = some .null) : new = none :=
  (Except.ok.inj (sets.read _ null)).symm

theorem States.congr {change : ModelChange} {other : ModelImport} (stated : item.States change)
    (same : ∀ name ∈ Codec.formLayout.names, other.members.get? name = item.members.get? name) : other.States change := by
  have told {α : Type} {name : String} (codec : Codec α) (key : name ∈ Codec.formLayout.names) :
      other.told name codec = item.told name codec := by
    unfold ModelImport.told
    rw [same name key]
  refine ⟨(told _ ?_).trans stated.baseModelId,(told _ ?_).trans stated.name,(told _ ?_).trans stated.info,
    (told _ ?_).trans stated.params,(told _ ?_).trans stated.access,(told _ ?_).trans stated.isActive,?_⟩
  case refine_7 =>
    rw [told _ (by decide)]
    exact stated.owner
  all_goals decide

theorem States.told_owner {change : ModelChange} (stated : item.States change) :
    ∃ owner, item.told "user_id" (Codec.option Codec.text) = .ok owner ∧ owner.join = change.owner :=
  map_ok.mp stated.owner

theorem getD_some_getD (owner : Option (Option String)) (old : String) :
    (owner.getD (some old)).getD old = owner.join.getD old := by
  rcases owner with _ | _ | owner <;> rfl

theorem States.rewrites {change : ModelChange} (stated : item.States change) :
    item.Rewrites now r r' ↔ r' = change.apply now r := by
  obtain ⟨owner,told,join⟩ := stated.told_owner
  constructor
  · rintro ⟨id,createdAt,updatedAt,baseModelId,name,info,params,access,isActive,owner',set,same⟩
    rw [told_sets told] at set
    rw [set,getD_some_getD,join] at same
    rw [told_sets stated.baseModelId] at baseModelId
    rw [told_sets stated.name] at name
    rw [told_sets stated.info] at info
    rw [told_sets stated.params] at params
    rw [told_sets stated.access] at access
    rw [told_sets stated.isActive] at isActive
    cases r'
    simp only at id createdAt updatedAt baseModelId name info params access isActive same
    rw [id,createdAt,updatedAt,baseModelId,name,info,params,access,isActive,same]
    rfl
  · rintro rfl
    refine ⟨rfl,rfl,rfl,(told_sets stated.baseModelId).mpr rfl,(told_sets stated.name).mpr rfl,
      (told_sets stated.info).mpr rfl,(told_sets stated.params).mpr rfl,(told_sets stated.access).mpr rfl,
      (told_sets stated.isActive).mpr rfl,_,(told_sets told).mpr rfl,?_⟩
    rw [getD_some_getD,join]
    rfl

def look (members : Extensions) (name : String) : Option Tree := (members.get? name).map Value.tree

theorem slot_look (item : ModelImport) (f : Json.Field α) : f.slot .tree (look item.members f.name) = item.told f.name f.codec := by
  unfold look told
  cases item.members.get? f.name with
  | some value => rfl
  | none => rfl

theorem readTree_ok {members : Extensions} : Codec.modelForm.readTree members.toValue.tree = .ok form ↔
    Codec.formLayout.gathered .tree (look members) = .ok form.fields := by
  have same : (Entries.find? · (members.map Value.tree).entries) = look members := funext (Keyed.get?_map members Value.tree)
  rw [← same,← Layout.read_gathers (members.map Value.tree).keys_distinct (by decide) "ModelForm"]
  constructor
  · intro read
    obtain ⟨fields,inside,rfl⟩ := map_ok.mp read
    exact inside
  · intro read
    exact map_ok.mpr ⟨form.fields,read,rfl⟩

theorem told_id (named : item.id ≠ "") : item.told "id" Codec.text = .ok (some item.id) := by
  unfold told
  unfold ModelImport.id at named ⊢
  cases held : item.members.get? "id" with
  | none =>
    rw [held] at named
    exact (named rfl).elim
  | some value =>
    cases read : value.text? with
    | none =>
      rw [held,Option.bind_some,read] at named
      exact (named rfl).elim
    | some text =>
      rw [Option.bind_some,read]
      cases Value.text?_some.mp read
      rfl

theorem told_fields (named : item.id ≠ "") {id : Option String} {baseModelId : Option (Option String)}
    {name : Option String} {info : Option ModelMeta} {params : Option ModelParams} {access : Option (Option AccessControl)}
    {isActive : Option Bool} {owner : Option (Option String)} :
    Codec.formLayout.told .tree (look item.members) = .ok (id,baseModelId,name,info,params,access,isActive,owner,()) ↔
      id = some item.id ∧ item.States ⟨baseModelId,name,info,params,access,isActive,owner.join⟩ ∧
        item.told "user_id" (Codec.option Codec.text) = .ok owner := by
  have own := told_id named
  unfold Codec.formLayout
  simp only [Layout.told_field,slot_look]
  constructor
  · rintro ⟨id',baseModelId,name,info,params,access,isActive,owner,-⟩
    refine ⟨Except.ok.inj (id'.symm.trans own),⟨baseModelId,name,info,params,access,isActive,?_⟩,owner⟩
    exact congrArg (Except.map Option.join) owner
  · rintro ⟨rfl,stated,owner⟩
    exact ⟨own,stated.baseModelId,stated.name,stated.info,stated.params,stated.access,stated.isActive,owner,rfl⟩

theorem ofForm_carries (form : ModelForm) : (ofForm form).Carries form := by
  intro name _
  have distinct := Codec.formLayout_lawful.names_distinct.sublist (Layout.write_sublist Codec.formLayout form.fields)
  obtain ⟨held,found,entries⟩ := Option.map_eq_some_iff.mp
    (Value.members?_tree (v := Value.ofTree (Codec.modelForm.write form)) rfl)
  have members : (ofForm form).members = held := by
    rw [ofForm,found]
    rfl
  rw [members,← Keyed.get?_map,Keyed.get?,entries]
  exact Layout.find?_normalized distinct name

theorem look_merged (item : ModelImport) (r : ModelRecord) :
    look ((ofForm r.toForm).members.insertAll item.members.entries) =
      fun name => (look item.members name).or (look (ofForm r.toForm).members name) := by
  funext name
  unfold look
  rw [Keyed.get?_insertAll,Entries.find?_reverse item.members.keys_distinct,Option.map_or]
  rfl

theorem overlay_form (fine : r.NullFree) : item.overlay r = .ok form ↔
    ∃ slots, Codec.formLayout.told .tree (look item.members) = .ok slots ∧
      Codec.formLayout.overlaid slots r.toForm.fields = form.fields := by
  have stored : Codec.formLayout.gathered .tree (look (ofForm r.toForm).members) = .ok r.toForm.fields := by
    refine Codec.formLayout_lawful.gathers Layout.handed_value ?_ trivial (ofForm_carries r.toForm)
    exact ⟨trivial,trivial,trivial,trivial,fine,trivial,trivial,trivial,trivial⟩
  rw [overlay,mapError_ok,readTree_ok,look_merged]
  exact Layout.gathered_over Codec.formLayout _ _ stored

theorem overlay_ok (named : item.id ≠ "") (fine : r.NullFree) :
    (item.overlay r).map (fun form => r.applyForm form now) = .ok r' ↔
      ∃ change, item.States change ∧ r' = change.apply now r := by
  rw [map_ok]
  constructor
  · rintro ⟨⟨⟩,read,rfl⟩
    obtain ⟨⟨id,baseModelId,name,info,params,access,isActive,owner,_⟩,told,laid⟩ := (overlay_form fine).mp read
    cases laid
    obtain ⟨-,stated,-⟩ := (told_fields named).mp told
    refine ⟨_,stated,?_⟩
    simp only [ModelRecord.applyForm,ModelChange.apply,← getD_some_getD]
    rfl
  · rintro ⟨change,stated,rfl⟩
    obtain ⟨owner,told,join⟩ := stated.told_owner
    have fields := (told_fields named).mpr ⟨rfl,(join ▸ stated : item.States { change with owner := owner.join }),told⟩
    refine ⟨⟨item.id,_,_,_,_,_,_,_⟩,(overlay_form fine).mpr ⟨_,fields,rfl⟩,?_⟩
    simp only [ModelRecord.applyForm,ModelChange.apply,← join,← getD_some_getD]
    rfl

theorem toForm_form : item.toForm = .ok form ↔
    ∃ slots, Codec.formLayout.told .tree (look item.members) = .ok slots ∧
      Codec.formLayout.settle slots = .ok form.fields := by
  rw [toForm,mapError_ok,readTree_ok,Layout.gathered_told]

theorem settle_form {id : Option String} {baseModelId : Option (Option String)} {name : Option String}
    {info : Option ModelMeta} {params : Option ModelParams} {access : Option (Option AccessControl)}
    {isActive : Option Bool} {owner : Option (Option String)} :
    Codec.formLayout.settle (id,baseModelId,name,info,params,access,isActive,owner,()) = .ok form.fields ↔
      id = some form.id ∧ name = some form.name ∧ form = ⟨form.id,baseModelId.getD none,form.name,info.getD {},
        params.getD {},access.getD none,isActive.getD true,owner.getD none⟩ := by
  unfold Codec.formLayout
  cases id with
  | none => exact ⟨fun settled => (by cases settled),fun same => (by cases same.1)⟩
  | some id =>
    cases name with
    | none =>
      simp only [Layout.settle_field,Field.taken_defaulted]
      exact ⟨fun settled => (by cases settled),fun same => (by cases same.2.1)⟩
    | some name =>
      simp only [Layout.settle_field,Field.taken_defaulted,ModelForm.fields]
      cases form
      constructor
      · intro settled
        cases settled
        exact ⟨rfl,rfl,rfl⟩
      · rintro ⟨own,called,same⟩
        cases own
        cases called
        cases same
        rfl

theorem toForm_ok (named : item.id ≠ "") {owner : String} :
    item.toForm.map (fun form => .ofForm form owner now) = .ok r ↔
      ∃ change, item.States change ∧ change.name.isSome = true ∧ r = change.apply now (.blank item.id owner now) := by
  have owners : ∀ owner' : Option (Option String), (owner'.getD none).getD owner = owner'.join.getD owner := by
    rintro (_ | _ | owner) <;> rfl
  rw [map_ok]
  constructor
  · rintro ⟨⟨⟩,read,rfl⟩
    obtain ⟨⟨id,baseModelId,name,info,params,access,isActive,owner',_⟩,told,settled⟩ := toForm_form.mp read
    obtain ⟨rfl,stated,-⟩ := (told_fields named).mp told
    obtain ⟨own,rfl,whole⟩ := settle_form.mp settled
    cases own
    cases whole
    refine ⟨_,stated,rfl,?_⟩
    simp only [ModelRecord.ofForm,ModelRecord.blank,ModelChange.apply,← owners]
    rfl
  · rintro ⟨change,stated,whole,rfl⟩
    obtain ⟨owner',told,join⟩ := stated.told_owner
    obtain ⟨name,named'⟩ := Option.isSome_iff_exists.mp whole
    have fields := (told_fields named).mpr ⟨rfl,(join ▸ stated : item.States { change with owner := owner'.join }),told⟩
    refine ⟨⟨item.id,_,name,_,_,_,_,_⟩,toForm_form.mpr ⟨_,fields,settle_form.mpr ⟨rfl,named',rfl⟩⟩,?_⟩
    simp only [ModelRecord.ofForm,ModelRecord.blank,ModelChange.apply,← join,← owners,named']
    rfl

end ModelImport
end ModelCatalog
