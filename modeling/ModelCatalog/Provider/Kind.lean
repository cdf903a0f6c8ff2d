import ModelCatalog.Error
import ModelCatalog.Json.Layout

namespace ModelCatalog
open Json

inductive ProviderKind where
  | openAI
  | ollama
deriving DecidableEq

namespace ProviderKind

def all : List ProviderKind := [.openAI,.ollama]

def name : ProviderKind → String
  | .openAI => "openai"
  | .ollama => "ollama"

def ofName? (name : String) : Option ProviderKind := Codec.named? all ProviderKind.name name

def parse (name : String) : Except Error ProviderKind :=
  match ofName? name with
  | some kind => .ok kind
  | none => .error (.invalid (.unknownProvider name))

def title : ProviderKind → String
  | .openAI => "OpenAi"
  | .ollama => "Ollama"

def defaultLabel : ProviderKind → String
  | .openAI => "external"
  | .ollama => "local"

end ProviderKind

inductive AuthType where
  | bearer
  | none
deriving DecidableEq

def AuthType.name : AuthType → String
  | .bearer => "bearer"
  | .none => "none"

def AuthType.title : AuthType → String
  | .bearer => "Bearer"
  | .none => "Disabled"

namespace Json.Codec

def providerKind : Codec ProviderKind := enumeration ProviderKind.all ProviderKind.name
def authType : Codec AuthType := enumeration [.bearer,.none] AuthType.name

end Json.Codec
end ModelCatalog
