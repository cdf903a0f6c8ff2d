import ModelCatalog.Catalog.Entry
import ModelCatalog.Provider.Connection

-- Filters look at the provider's own ids, and only the entries show them qualified.

namespace ModelCatalog
open Ordered Json

def Json.Value.member? (v : Value) (name : String) : Option Value :=
  v.members?.bind (·.get? name)

namespace Connection

def defaultAzureVersion : String := "2023-03-15-preview"

def modelsUrl (c : Connection) : String :=
  if c.azure then
    let version := (c.apiVersion.filter (· ≠ "")).getD defaultAzureVersion
    c.base ++ "/openai/models?api-version=" ++ version
  else c.url "models"

def versionUrl (c : Connection) : String := c.url "api/version"

def tagsUrl (c : Connection) : String := c.url "api/tags"

def verifyUrl (c : Connection) : String :=
  match c.kind with
  | .openAI => c.modelsUrl
  | .ollama => c.versionUrl

def listUrl (c : Connection) : String :=
  match c.kind with
  | .openAI => c.modelsUrl
  | .ollama => c.tagsUrl

end Connection

namespace Listing

-- The public service, whose listings hold models that cannot chat.
def publicHost : String := "api.openai.com"

def nonChatMarks : List String := ["babbage","dall-e","davinci","embedding","tts","whisper"]

def isPublic (c : Connection) : Bool := Text.contains c.baseUrl publicHost

def isNonChat (id : String) : Bool := nonChatMarks.any (Text.contains id)

def entry (c : Connection) (kind : ProviderKind) (index : Nat) (id name : String) (raw : Value) :
    CatalogEntry where
  id := c.qualified id
  name := name
  ownedBy := kind
  label := c.labelText
  origin := .single index
  tags := c.tags
  raw := raw

-- The item that stands for an allowed model of a provider that lists nothing.
def synthesized (id : String) : Value :=
  Value.ofTree (.object [("id",.text id),("name",.text id)])

def openAIItems (payload : Value) : List Value :=
  (((payload.member? "data").bind Value.items?).or payload.items?).getD []

-- Items with a string for an id; the name is the id where there is none.
def openAI (c : Connection) (index : Nat) (payload : Value) : List CatalogEntry :=
  let items := openAIItems payload
  let items := if items.isEmpty ∧ c.modelIds ≠ [] then c.modelIds.map synthesized else items
  items.filterMap fun raw => do
    let id ← (raw.member? "id").bind Value.text?
    if isPublic c ∧ isNonChat id then none
    else
      let name := ((raw.member? "name").bind Value.text?).filter (· ≠ "")
      some (entry c .openAI index id (name.getD id) raw)

-- Items with a string under `model`, or under `name` where there is no `model`; only allowed ones, if some are.
def ollama (c : Connection) (index : Nat) (payload : Value) : List CatalogEntry :=
  let items := ((payload.member? "models").bind Value.items?).getD []
  items.filterMap fun raw => do
    let id ← ((raw.member? "model").or (raw.member? "name")).bind Value.text?
    if c.modelIds ≠ [] ∧ id ∉ c.modelIds then none
    else some (entry c .ollama index id (c.qualified id) raw)

def normalize (kind : ProviderKind) (c : Connection) (index : Nat) (payload : Value) :
    List CatalogEntry :=
  match kind with
  | .openAI => openAI c index payload
  | .ollama => ollama c index payload

end Listing
end ModelCatalog
