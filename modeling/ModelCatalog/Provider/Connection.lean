import ModelCatalog.Error
import ModelCatalog.Model.Record
import ModelCatalog.Provider.Kind

namespace ModelCatalog
open Ordered Json Web

abbrev ConnectionId := Unsigned64

def ConnectionId.unassigned : ConnectionId := ⟨0,by decide⟩

def ConnectionId.first : ConnectionId := ⟨1,by decide⟩

structure Connection where
  id : ConnectionId
  name : String
  kind : ProviderKind
  baseUrl : String
  apiKey : String
  enabled : Bool
  label : Option String
  -- Put in front of model ids, with a dot.
  qualifier : Option String
  tags : List String
  -- The models that are listed; none means all.
  modelIds : List String
  headers : Keyed String String
  authType : AuthType
  apiVersion : Option String
  azure : Bool
  extra : Extensions
  createdAt : Timestamp
  updatedAt : Timestamp
deriving DecidableEq

structure ConnectionForm where
  name : String := ""
  kind : Option ProviderKind := none
  baseUrl : String := ""
  apiKey : String := ""
  enabled : Bool := true
  label : Option String := none
  qualifier : Option String := none
  tags : List String := []
  modelIds : List String := []
  headers : Keyed String String := ∅
  authType : AuthType := .bearer
  apiVersion : Option String := none
  azure : Bool := false
  extra : Extensions := ∅
deriving DecidableEq

structure ConnectionPatch where
  name : Option String := none
  kind : Option ProviderKind := none
  baseUrl : Option String := none
  apiKey : Option String := none
  enabled : Option Bool := none
  label : Option String := none
  qualifier : Option String := none
  tags : Option (List String) := none
  modelIds : Option (List String) := none
  headers : Option (Keyed String String) := none
  authType : Option AuthType := none
  apiVersion : Option String := none
  azure : Option Bool := none
  extra : Option Extensions := none
deriving DecidableEq

def validateBaseUrl (text : String) : Except Error Unit :=
  if Text.trim text = "" then .error (.invalid .noBaseUrl)
  else match Address.parse text with
    | .ok _ => .ok ()
    | .error reason => .error (.invalid (.badBaseUrl text reason))

namespace Connection

def ofForm (id : ConnectionId) (form : ConnectionForm) (now : Timestamp) :
    Except Error Connection := do
  let kind ← match form.kind with
    | some kind => .ok kind
    | none => .error (.invalid .noConnectionType)
  validateBaseUrl form.baseUrl
  return {
    id,kind
    name := form.name
    baseUrl := form.baseUrl
    apiKey := form.apiKey
    enabled := form.enabled
    label := form.label
    qualifier := form.qualifier
    tags := form.tags
    modelIds := form.modelIds
    headers := form.headers
    authType := form.authType
    apiVersion := form.apiVersion
    azure := form.azure
    extra := form.extra
    createdAt := now
    updatedAt := now }

-- A bad base address refuses all of a patch.
def applyPatch (c : Connection) (patch : ConnectionPatch) (now : Timestamp) :
    Except Error Connection := do
  if let some baseUrl := patch.baseUrl then validateBaseUrl baseUrl
  return { c with
    name := patch.name.getD c.name
    kind := patch.kind.getD c.kind
    baseUrl := patch.baseUrl.getD c.baseUrl
    apiKey := patch.apiKey.getD c.apiKey
    enabled := patch.enabled.getD c.enabled
    label := patch.label.or c.label
    qualifier := patch.qualifier.or c.qualifier
    tags := patch.tags.getD c.tags
    modelIds := patch.modelIds.getD c.modelIds
    headers := patch.headers.getD c.headers
    authType := patch.authType.getD c.authType
    apiVersion := patch.apiVersion.or c.apiVersion
    azure := patch.azure.getD c.azure
    extra := patch.extra.getD c.extra
    updatedAt := now }

def base (c : Connection) : String :=
  String.ofList ((c.baseUrl.toList.reverse.dropWhile (· = '/')).reverse)

def url (c : Connection) (path : String) : String :=
  c.base ++ "/" ++ String.ofList (path.toList.dropWhile (· = '/'))

def bearerToken (c : Connection) : Option String :=
  match c.authType with
  | .none => none
  | .bearer => if c.apiKey = "" then none else some c.apiKey

def labelText (c : Connection) : String :=
  (c.label.filter (· ≠ "")).getD c.kind.defaultLabel

def qualified (c : Connection) (id : String) : String :=
  match c.qualifier with
  | some q => if q = "" then id else q ++ "." ++ id
  | none => id

def optionText : Option String → String
  | none => "None"
  | some s => "Some(" ++ Text.quoted s ++ ")"

def listText (items : List String) : String :=
  "[" ++ ", ".intercalate (items.map Text.quoted) ++ "]"

def boolText (b : Bool) : String := if b then "true" else "false"

def describe (c : Connection) : String :=
  let fields : List (String × String) := [
    ("id","ConnectionId(" ++ toString c.id.value ++ ")"),
    ("name",Text.quoted c.name),
    ("kind",c.kind.title),
    ("base_url",Text.quoted c.baseUrl),
    ("api_key",Text.quoted (if c.apiKey = "" then "" else "[REDACTED]")),
    ("enable",boolText c.enabled),
    ("connection_type",optionText c.label),
    ("prefix_id",optionText c.qualifier),
    ("tags",listText c.tags),
    ("model_ids",listText c.modelIds),
    ("auth_type",c.authType.title),
    ("azure",boolText c.azure)]
  "ProviderConnection \x7b " ++ ", ".intercalate (fields.map fun (name,text) => name ++ ": " ++ text)
    ++ ", .. \x7d"

end Connection

namespace Json.Codec

def connection : Codec Connection :=
  Layout.codec "ProviderConnection"
    (.field (.required "id" unsigned64) <|
      .field (.required "name" text) <|
      .field (.required "type" providerKind) <|
      .field (.required "base_url" text) <|
      .field (.defaulted "api_key" text "") <|
      .field (.defaulted "enable" bool true) <|
      .field (.defaulted "connection_type" (option text) none) <|
      .field (.defaulted "prefix_id" (option text) none) <|
      .field (.defaulted "tags" (list text) []) <|
      .field (.defaulted "model_ids" (list text) []) <|
      .field (.defaulted "headers" (map text) ∅) <|
      .field (.defaulted "auth_type" authType .bearer) <|
      .field (.defaulted "api_version" (option text) none) <|
      .field (.defaulted "azure" bool false) <|
      .field (.defaulted "meta" extensions ∅) <|
      .field (.required "created_at" signed64) <|
      .field (.required "updated_at" signed64) .done)
    (fun c => (c.id,c.name,c.kind,c.baseUrl,c.apiKey,c.enabled,c.label,c.qualifier,c.tags,
      c.modelIds,c.headers,c.authType,c.apiVersion,c.azure,c.extra,c.createdAt,c.updatedAt,()))
    (fun (id,name,kind,baseUrl,apiKey,enabled,label,qualifier,tags,modelIds,headers,
      authType,apiVersion,azure,extra,createdAt,updatedAt,()) =>
      { id,name,kind,baseUrl,apiKey,enabled,label,qualifier,tags,modelIds,headers,
        authType,apiVersion,azure,extra,createdAt,updatedAt })

def connectionForm : Codec ConnectionForm :=
  Layout.codec "ConnectionForm"
    (.field (.defaulted "name" text "") <|
      .field (.defaulted "type" (option providerKind) none) <|
      .field (.defaulted "base_url" text "") <|
      .field (.defaulted "api_key" text "") <|
      .field (.defaulted "enable" bool true) <|
      .field (.defaulted "connection_type" (option text) none) <|
      .field (.defaulted "prefix_id" (option text) none) <|
      .field (.defaulted "tags" (list text) []) <|
      .field (.defaulted "model_ids" (list text) []) <|
      .field (.defaulted "headers" (map text) ∅) <|
      .field (.defaulted "auth_type" authType .bearer) <|
      .field (.defaulted "api_version" (option text) none) <|
      .field (.defaulted "azure" bool false) <|
      .field (.defaulted "meta" extensions ∅) .done)
    (fun f => (f.name,f.kind,f.baseUrl,f.apiKey,f.enabled,f.label,f.qualifier,f.tags,
      f.modelIds,f.headers,f.authType,f.apiVersion,f.azure,f.extra,()))
    (fun (name,kind,baseUrl,apiKey,enabled,label,qualifier,tags,modelIds,headers,authType,
      apiVersion,azure,extra,()) =>
      { name,kind,baseUrl,apiKey,enabled,label,qualifier,tags,modelIds,headers,authType,
        apiVersion,azure,extra })

def connectionPatch : Codec ConnectionPatch :=
  Layout.codec "ConnectionPatch"
    (.field (.optional "name" text) <|
      .field (.optional "type" providerKind) <|
      .field (.optional "base_url" text) <|
      .field (.optional "api_key" text) <|
      .field (.optional "enable" bool) <|
      .field (.optional "connection_type" text) <|
      .field (.optional "prefix_id" text) <|
      .field (.optional "tags" (list text)) <|
      .field (.optional "model_ids" (list text)) <|
      .field (.optional "headers" (map text)) <|
      .field (.optional "auth_type" authType) <|
      .field (.optional "api_version" text) <|
      .field (.optional "azure" bool) <|
      .field (.optional "meta" extensions) .done)
    (fun p => (p.name,p.kind,p.baseUrl,p.apiKey,p.enabled,p.label,p.qualifier,p.tags,
      p.modelIds,p.headers,p.authType,p.apiVersion,p.azure,p.extra,()))
    (fun (name,kind,baseUrl,apiKey,enabled,label,qualifier,tags,modelIds,headers,authType,
      apiVersion,azure,extra,()) =>
      { name,kind,baseUrl,apiKey,enabled,label,qualifier,tags,modelIds,headers,authType,
        apiVersion,azure,extra })

end Json.Codec
end ModelCatalog
