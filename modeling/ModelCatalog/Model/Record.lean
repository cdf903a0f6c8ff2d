import ModelCatalog.Access
import ModelCatalog.Model.Params
import ModelCatalog.Text.LowerCase

namespace ModelCatalog
open Ordered Json

abbrev Timestamp := Signed64

structure Tag where
  name : String
deriving DecidableEq

structure ModelMeta where
  profileImageUrl : Option String := none
  description : Option String := none
  capabilities : Keyed String Bool := ∅
  tags : List Tag := []
  extra : Extensions := ∅
deriving DecidableEq

-- Without a base model it is a base model itself; without access control it is open to everybody.
structure ModelRecord where
  id : String
  owner : String
  baseModelId : Option String
  name : String
  params : ModelParams
  info : ModelMeta
  access : Option AccessControl
  isActive : Bool
  createdAt : Timestamp
  updatedAt : Timestamp
deriving DecidableEq

structure ModelForm where
  id : String
  baseModelId : Option String := none
  name : String
  info : ModelMeta := {}
  params : ModelParams := {}
  access : Option AccessControl := none
  isActive : Bool := true
  owner : Option String := none
deriving DecidableEq

namespace ModelRecord

def isBase (r : ModelRecord) : Bool := r.baseModelId.isNone

def hasTag (r : ModelRecord) (tag : String) : Bool :=
  r.info.tags.any (fun t => Text.lowerCase t.name = Text.lowerCase tag)

def matchesQuery (r : ModelRecord) (query : String) : Bool :=
  Text.contains (Text.lowerCase r.name) (Text.lowerCase query)
    || Text.contains (Text.lowerCase r.id) (Text.lowerCase query)

def ofForm (form : ModelForm) (owner : String) (now : Timestamp) : ModelRecord where
  id := form.id
  owner := form.owner.getD owner
  baseModelId := form.baseModelId
  name := form.name
  params := form.params
  info := form.info
  access := form.access
  isActive := form.isActive
  createdAt := now
  updatedAt := now

-- Id and creation time stay, and the owner does unless the form names one.
def applyForm (r : ModelRecord) (form : ModelForm) (now : Timestamp) : ModelRecord :=
  { r with
    owner := form.owner.getD r.owner
    baseModelId := form.baseModelId
    name := form.name
    params := form.params
    info := form.info
    access := form.access
    isActive := form.isActive
    updatedAt := now }

def toForm (r : ModelRecord) : ModelForm where
  id := r.id
  baseModelId := r.baseModelId
  name := r.name
  info := r.info
  params := r.params
  access := r.access
  isActive := r.isActive
  owner := some r.owner

end ModelRecord

namespace ModelForm

def base (f : ModelForm) (id : String) : ModelForm := { f with baseModelId := some id }
def grant (f : ModelForm) (access : AccessControl) : ModelForm := { f with access := some access }
def own (f : ModelForm) (owner : String) : ModelForm := { f with owner := some owner }
def tag (f : ModelForm) (name : String) : ModelForm :=
  { f with info := { f.info with tags := f.info.tags ++ [⟨name⟩] } }

end ModelForm

namespace Json.Codec

def tag : Codec Tag :=
  Layout.codec "Tag" (.field (.required "name" text) .done) (fun t => (t.name,()))
    (fun (name,()) => ⟨name⟩)

def modelMeta : Codec ModelMeta :=
  Layout.codec "ModelMeta"
    (.field (.optional "profile_image_url" text) <|
      .field (.optional "description" text) <|
      .field (.nonempty "capabilities" (map bool) ∅ Keyed.isEmpty) <|
      .field (.nonempty "tags" (list tag) [] List.isEmpty) <|
      .field (.nonempty "extra" extensions ∅ Keyed.isEmpty) .done)
    (fun m => (m.profileImageUrl,m.description,m.capabilities,m.tags,m.extra,()))
    (fun (profileImageUrl,description,capabilities,tags,extra,()) =>
      { profileImageUrl,description,capabilities,tags,extra })

def modelRecord : Codec ModelRecord :=
  Layout.codec "ModelRecord"
    (.field (.required "id" text) <|
      .field (.required "user_id" text) <|
      .field { name := "base_model_id",codec := option text,absent := .implied none } <|
      .field (.required "name" text) <|
      .field (.defaulted "params" modelParams {}) <|
      .field (.defaulted "meta" modelMeta {}) <|
      .field (.defaulted "access_control" (option accessControl) none) <|
      .field (.defaulted "is_active" bool true) <|
      .field (.required "created_at" signed64) <|
      .field (.required "updated_at" signed64) .done)
    (fun r => (r.id,r.owner,r.baseModelId,r.name,r.params,r.info,r.access,r.isActive,
      r.createdAt,r.updatedAt,()))
    (fun (id,owner,baseModelId,name,params,info,access,isActive,createdAt,updatedAt,()) =>
      { id,owner,baseModelId,name,params,info,access,isActive,createdAt,updatedAt })

def formLayout : Layout (String × Option String × String × ModelMeta × ModelParams × Option AccessControl
      × Bool × Option String × Unit)
    (Option String × Option (Option String) × Option String × Option ModelMeta × Option ModelParams
      × Option (Option AccessControl) × Option Bool × Option (Option String) × Unit) :=
  .field (.required "id" text) <|
    .field (.defaulted "base_model_id" (option text) none) <|
    .field (.required "name" text) <|
    .field (.defaulted "meta" modelMeta {}) <|
    .field (.defaulted "params" modelParams {}) <|
    .field (.defaulted "access_control" (option accessControl) none) <|
    .field (.defaulted "is_active" bool true) <|
    .field (.defaulted "user_id" (option text) none) .done

def modelForm : Codec ModelForm :=
  Layout.codec "ModelForm" formLayout
    (fun f => (f.id,f.baseModelId,f.name,f.info,f.params,f.access,f.isActive,f.owner,()))
    (fun (id,baseModelId,name,info,params,access,isActive,owner,()) =>
      { id,baseModelId,name,info,params,access,isActive,owner })

end Json.Codec
end ModelCatalog
