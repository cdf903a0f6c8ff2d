import ModelCatalog.Store.Script

namespace ModelCatalog.Registry.Connections
open Store

def missing (id : ConnectionId) : Error := .notFound (.connection id.value.toNat)

def create (form : ConnectionForm) (now : Timestamp) : Action Connection := do
  let c ← Connection.ofForm .unassigned form now
  ask (.insertConnection c)

-- In ascending order of ids; the place in this list is a connection's position.
def list : Action (List Connection) := ask .listConnections

def get (id : ConnectionId) : Action Connection := do
  match ← ask (.getConnection id) with
  | some c => return c
  | none => throw (missing id)

def getIndexed (id : ConnectionId) : Action (Nat × Connection) := do
  match (← list).zipIdx.find? (fun (c,_) => c.id = id) with
  | some (c,index) => return (index,c)
  | none => throw (missing id)

def update (id : ConnectionId) (patch : ConnectionPatch) (now : Timestamp) : Action Connection := do
  let c ← get id
  let c ← c.applyPatch patch now
  match ← attempt (.updateConnection c) with
  | .ok c => return c
  | .error (.missing _) => throw (missing id)
  | .error e => throw (.storage e)

def delete (id : ConnectionId) : Action Unit := do
  if !(← ask (.deleteConnection id)) then throw (missing id)

end ModelCatalog.Registry.Connections
