import ModelCatalog.Catalog.Config
import ModelCatalog.Catalog.Listing
import ModelCatalog.Catalog.Merge
import ModelCatalog.Registry.Connections
import ModelCatalog.Web.Request

namespace ModelCatalog.Catalog
open Store Json Web

structure Service where
  adapters : List ProviderKind
  config : CatalogConfig

inductive Cancellation where
  | never
  | before
  | whileWaiting
deriving DecidableEq

structure Surroundings where
  network : Network
  cancellation : Cancellation := .never

structure Failure where
  index : Nat
  id : ConnectionId
  error : Error

structure Lenient where
  entries : List CatalogEntry
  failures : List Failure

abbrev Listings := Connection → Nat → Except Error (List CatalogEntry)

def Failure.of? (fetched : (Connection × Nat) × Except Error (List CatalogEntry)) : Option Failure :=
  match fetched with
  | (_,.ok _) => none
  | ((c,index),.error error) => some ⟨index,c.id,error⟩

def Lenient.gather (connections : List Connection) (results : List (Except Error (List CatalogEntry))) :
    Lenient :=
  let fetched := connections.zipIdx.zip results
  ⟨merge (fetched.filterMap fun f => f.2.toOption),fetched.filterMap Failure.of?⟩

namespace Service

def start (config : CatalogConfig) : Except Error Service :=
  if legalAgent config.userAgent then .ok ⟨ProviderKind.all,config⟩
  else .error (.unreachable (.badRequest none))

def describeAdapters (s : Service) : String :=
  let kinds := ProviderKind.all.filter (s.adapters.contains ·)
  "Adapters \x7b kinds: [" ++ ", ".intercalate (kinds.map ProviderKind.title) ++ "] \x7d"

def adapter (s : Service) (kind : ProviderKind) : Except Error Unit :=
  if s.adapters.contains kind then .ok () else .error (.invalid (.noAdapter kind.name))

def request (s : Service) (c : Connection) (url : String) : Except Error Request :=
  (Request.make url c.headers.entries c.bearerToken s.config.userAgent).mapError .unreachable

def send (s : Service) (w : Surroundings) (c : Connection) (url : String) :
    Except Error (Nat × Option String) := do
  let r ← s.request c url
  r.send w.network (w.cancellation = .whileWaiting)

def listModels (s : Service) (w : Surroundings) (c : Connection) (index : Nat) :
    Except Error (List CatalogEntry) := do
  let (_,body) ← s.send w c c.listUrl
  match body with
  | none => throw (.unreachable .badBody)
  | some text => match Codec.value.readText text with
    | .ok payload => return Listing.normalize c.kind c index payload
    | .error _ => throw (.unreachable .badBody)

def probe (s : Service) (w : Surroundings) (c : Connection) : Except Error VerifyStatus := do
  let (status,_) ← s.send w c c.verifyUrl
  return ⟨status,(Status.reason? status).getD ""⟩

def fetch (s : Service) (listings : Listings) (index : Nat) (c : Connection) :
    Except Error (List CatalogEntry) := do
  if s.config.skipDisabled && !c.enabled then return []
  s.adapter c.kind
  listings c index

-- The first failure, by position, is the answer if there is one.
def strict (s : Service) (listings : Listings) (connections : List Connection) :
    Except Error (List CatalogEntry) := do
  let batches ← connections.zipIdx.mapM fun (c,index) => s.fetch listings index c
  return merge batches

def lenient (s : Service) (listings : Listings) (connections : List Connection) : Lenient :=
  .gather connections (connections.zipIdx.map fun (c,index) => s.fetch listings index c)

def cancelled : Error := .unreachable .cancelled

def unlessCancelled (w : Surroundings) (result : Except Error α) : Except Error α :=
  if w.cancellation = .before then .error cancelled else result

def aggregate (s : Service) (w : Surroundings) : Action (List CatalogEntry) := do
  let connections ← Registry.Connections.list
  unlessCancelled w (s.strict (s.listModels w) connections)

-- A call that is given up while a connection is waited for has no result.
def aggregateLenient (s : Service) (w : Surroundings) : Action Lenient := do
  let connections ← Registry.Connections.list
  unlessCancelled w do
    let catalog := s.lenient (s.listModels w) connections
    if w.cancellation = .whileWaiting ∧ catalog.failures.any (fun f => f.error = cancelled) then
      throw cancelled
    return catalog

def connectionModels (s : Service) (w : Surroundings) (id : ConnectionId) :
    Action (List CatalogEntry) := do
  let (index,c) ← Registry.Connections.getIndexed id
  s.adapter c.kind
  unlessCancelled w (s.listModels w c index)

def verify (s : Service) (w : Surroundings) (id : ConnectionId) : Action VerifyStatus := do
  let c ← Registry.Connections.get id
  s.adapter c.kind
  unlessCancelled w (s.probe w c)

end Service
end ModelCatalog.Catalog
