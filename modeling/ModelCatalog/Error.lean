import ModelCatalog.Json.Fault
import ModelCatalog.Web.Address

namespace ModelCatalog
open Json Web

inductive StoreError where
  | duplicate (key : String)
  | missing (key : String)
  | unsupportedVersion (version : Nat)
  -- No id follows the last one. The program has no answer to a call that asks for it, and stops.
  | overflow
  | io
  | serialization (fault : Fault)
deriving DecidableEq

inductive Invalid where
  | unknownRole (name : String)
  | unknownProvider (name : String)
  | emptyModelId
  | longModelId
  | importItem (id : String) (fault : Fault)
  | noConnectionType
  | noBaseUrl
  | badBaseUrl (text : String) (reason : AddressError)
  | noAdapter (provider : String)
  | stated (text : String)
deriving DecidableEq

inductive Subject where
  | model (id : String)
  | connection (id : Nat)
  | stated (text : String)
deriving DecidableEq

inductive Outage where
  | badRequest (url : Option String)
  | refused (url : String)
  | dropped (url : String)
  | timedOut
  | badBody
  | cancelled
  | stated (text : String)
deriving DecidableEq

inductive Error where
  | invalid (cause : Invalid)
  | notFound (subject : Subject)
  | forbidden (subject : Subject)
  | conflict (subject : Subject)
  | rejected (status : Nat) (message : String)
  | unreachable (cause : Outage)
  | storage (cause : StoreError)
deriving DecidableEq

def StoreError.message? : StoreError → Option String
  | .duplicate key => some ("duplicate key: " ++ key)
  | .missing key => some ("missing key: " ++ key)
  | .unsupportedVersion v => some ("unsupported document version: " ++ toString v)
  | .overflow | .io | .serialization _ => none

def maxModelIdLength : Nat := 256

def Invalid.message : Invalid → String
  | .unknownRole name => "unknown role: " ++ name
  | .unknownProvider name => "unsupported provider type: " ++ name
  | .emptyModelId => "model id must not be empty"
  | .longModelId => "model id exceeds " ++ toString maxModelIdLength ++ " characters"
  | .importItem id fault => "import item " ++ id ++ ": " ++ fault.message?.getD ""
  | .noConnectionType => "connection type is required"
  | .noBaseUrl => "base_url is required"
  | .badBaseUrl text reason => "invalid base_url " ++ Text.quoted text ++ ": " ++ reason.message
  | .noAdapter provider => "no adapter registered for type " ++ provider
  | .stated text => text

def Subject.message : Subject → String
  | .model id => "model " ++ id
  | .connection id => "connection " ++ toString id
  | .stated text => text

def Outage.message : Outage → String
  | .badRequest none => "builder error"
  | .badRequest (some url) => "builder error for url (" ++ url ++ ")"
  | .refused url => "connection failed: error sending request for url (" ++ url ++ ")"
  | .dropped url => "error sending request for url (" ++ url ++ ")"
  | .timedOut => "request timed out"
  | .badBody => "unexpected response body: error decoding response body"
  | .cancelled => "request cancelled"
  | .stated text => text

namespace Error

def message? : Error → Option String
  | .invalid cause => some ("invalid input: " ++ cause.message)
  | .notFound subject => some ("not found: " ++ subject.message)
  | .forbidden subject => some ("access denied: " ++ subject.message)
  | .conflict subject => some ("already exists: " ++ subject.message)
  | .rejected _ message => some ("upstream provider error: " ++ message)
  | .unreachable cause => some ("upstream provider error: " ++ cause.message)
  | .storage cause => cause.message?.map ("storage error: " ++ ·)

def status : Error → Nat
  | .invalid _ => 400
  | .notFound _ => 404
  | .forbidden _ => 403
  | .conflict _ => 409
  | .rejected status _ => status
  | .unreachable _ => 502
  | .storage _ => 500

end Error
end ModelCatalog
