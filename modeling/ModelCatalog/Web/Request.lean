import ModelCatalog.Error
import ModelCatalog.Web.Status

namespace ModelCatalog.Web

-- The headers are in sending order, their names in lower case.
structure Request where
  address : Address
  headers : List (String × String)
deriving DecidableEq

inductive Reply where
  | answered (status : Nat) (body : Option String)
  | refused
  | dropped
  | silent

abbrev Network := Request → Reply

def Network.offline : Network := fun _ => .refused

abbrev Header := String × String

namespace Header

def isName (name : String) : Bool :=
  name ≠ "" && name.toList.all fun c => c.isAlphanum
    || ['!','#','$','%','&','\'','*','+','-','.','^','_','\u0060','|','~'].contains c

def isValue (value : String) : Bool :=
  value.toList.all fun c => c = '\t' || (0x20 ≤ c.toNat && c.toNat ≠ 0x7F)

def isLegal (h : Header) : Bool := isName h.1 && isValue h.2

def key (h : Header) : String := String.ofList (h.1.toList.map Char.toLower)

end Header

def legalAgent (agent : Option String) : Bool := agent.all Header.isValue

def Address.user? (a : Address) : Option (String × Option String) := do
  let name ← ofUtf8? (Percent.decode a.username.toList)
  let password := a.password.bind fun p => ofUtf8? (Percent.decode p.toList)
  if name = "" ∧ password.isNone then none else some (name,password)

def basic (user : String × Option String) : Header :=
  let text := user.1 ++ ":" ++ user.2.getD ""
  ("authorization","Basic " ++ String.ofList (Base64.encode (utf8 text)))

def Host.sendable : Host → Bool
  | .name s => s.toList.all fun c => !(['"','\u0060','{','}'].contains c)
  | _ => true

namespace Request

-- The user of the address comes first, then the headers as they are configured, then a bearer token unless one of
-- them is an authorization, then the agent unless one is configured. Of several reasons why there can be no request,
-- the address comes first, then the headers, then the scheme.
def make (url : String) (headers : List Header) (token agent : Option String) :
    Except Outage Request := do
  let a ← match Address.parse url with
    | .ok a => .ok a
    | .error _ => .error (.badRequest none)
  if a.host.isNone ∨ a.host = some (.name "") then throw (.badRequest (some a.text))
  let user := a.user?
  let a := if user.isSome then { a with username := "",password := none } else a
  let authorized := headers.any (·.key = "authorization")
  let bearer := match token with
    | some token => if authorized then [] else [("authorization","Bearer " ++ token)]
    | none => []
  if !(headers ++ bearer).all Header.isLegal then throw (.badRequest none)
  if (a.scheme ≠ "http" ∧ a.scheme ≠ "https") ∨ !(a.host.all Host.sendable) then
    throw (.badRequest (some a.text))
  let chosen := (user.map basic).toList ++ headers.map (fun h => (h.key,h.2)) ++ bearer
  let agent := match agent with
    | some agent => if chosen.any (·.1 = "user-agent") then [] else [("user-agent",agent)]
    | none => []
  return ⟨a,chosen ++ agent⟩

-- Whoever waits for a silent provider either runs out of time or, where waiting is `cancelled`, is called off.
def send (net : Network) (cancelled : Bool) (r : Request) : Except Error (Nat × Option String) :=
  match net r with
  | .refused => .error (.unreachable (.refused r.address.text))
  | .dropped => .error (.unreachable (.dropped r.address.text))
  | .silent => .error (.unreachable (if cancelled then .cancelled else .timedOut))
  | .answered status body =>
    if Status.isSuccess status then .ok (status,body)
    else .error (.rejected status ("remote returned " ++ Status.text status))

end Request
end ModelCatalog.Web
