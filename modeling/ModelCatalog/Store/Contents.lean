import ModelCatalog.Error
import ModelCatalog.Provider.Connection

namespace ModelCatalog.Store
open Ordered

structure Contents where
  models : Keyed String ModelRecord
  connections : Keyed ConnectionId Connection
  nextId : ConnectionId
deriving DecidableEq

def Contents.empty : Contents := ⟨∅,∅,ConnectionId.first⟩

inductive Call where
  | getModel (id : String)
  | listModels
  | insertModel (model : ModelRecord)
  | updateModel (model : ModelRecord)
  -- The creation time of a stored model stays.
  | upsertModel (model : ModelRecord)
  | deleteModel (id : String)
  | deleteAllModels
  | retainModels (keep : KeySet String)
  | getConnection (id : ConnectionId)
  | listConnections
  -- Inserts under the next id, whatever id the connection has.
  | insertConnection (connection : Connection)
  | updateConnection (connection : Connection)
  | deleteConnection (id : ConnectionId)
deriving DecidableEq

-- Deletions tell whether there was a record, or how many there were.
abbrev Call.Answer : Call → Type
  | .getModel _ => Option ModelRecord
  | .listModels => List ModelRecord
  | .insertModel _ | .updateModel _ | .upsertModel _ => ModelRecord
  | .deleteModel _ | .deleteConnection _ => Bool
  | .deleteAllModels | .retainModels _ => Nat
  | .getConnection _ => Option Connection
  | .listConnections => List Connection
  | .insertConnection _ | .updateConnection _ => Connection

def Call.isRead : Call → Bool
  | .getModel _ | .listModels | .getConnection _ | .listConnections => true
  | _ => false

abbrev Outcome (call : Call) := Except StoreError (call.Answer × Contents)

namespace Contents

-- The id that follows another.
def succ? (id : ConnectionId) : Option ConnectionId := Bounded.ofInt? (id.value + 1)

def answer (s : Contents) : (call : Call) → Outcome call
  | .getModel id => .ok (s.models.get? id,s)
  | .listModels => .ok (s.models.values,s)
  | .insertModel model =>
    if s.models.contains model.id then .error (.duplicate model.id)
    else .ok (model,{ s with models := s.models.insert model.id model })
  | .updateModel model =>
    if s.models.contains model.id then .ok (model,{ s with models := s.models.insert model.id model })
    else .error (.missing model.id)
  | .upsertModel model =>
    let model := match s.models.get? model.id with
      | some stored => { model with createdAt := stored.createdAt }
      | none => model
    .ok (model,{ s with models := s.models.insert model.id model })
  | .deleteModel id => .ok (s.models.contains id,{ s with models := s.models.erase id })
  | .deleteAllModels => .ok (s.models.size,{ s with models := ∅ })
  | .retainModels keep =>
    let kept := s.models.filter (fun entry => keep.contains entry.1)
    .ok (s.models.size - kept.size,{ s with models := kept })
  | .getConnection id => .ok (s.connections.get? id,s)
  | .listConnections => .ok (s.connections.values,s)
  | .insertConnection connection =>
    let id := if s.nextId = ConnectionId.unassigned then ConnectionId.first else s.nextId
    match succ? id with
    | none => .error .overflow
    | some nextId =>
      let connection := { connection with id }
      .ok (connection,{ s with connections := s.connections.insert id connection,nextId })
  | .updateConnection connection =>
    if s.connections.contains connection.id then
      .ok (connection,{ s with connections := s.connections.insert connection.id connection })
    else .error (.missing (toString connection.id.value))
  | .deleteConnection id =>
    .ok (s.connections.contains id,{ s with connections := s.connections.erase id })

end Contents

-- A deletion that removes nothing has nothing to write, except for the deletion of all models.
def Call.writes : (call : Call) → call.Answer → Bool
  | .getModel _,_ | .listModels,_ | .getConnection _,_ | .listConnections,_ => false
  | .deleteModel _,removed | .deleteConnection _,removed => removed
  | .retainModels _,count => count ≠ 0
  | .deleteAllModels,_ | .insertModel _,_ | .updateModel _,_ | .upsertModel _,_
  | .insertConnection _,_ | .updateConnection _,_ => true

end ModelCatalog.Store
