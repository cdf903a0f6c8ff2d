import ModelCatalog.Model.Filter
import ModelCatalog.Model.Import
import ModelCatalog.Store.Script

-- Administrators and owners pass every gate on a single record; everybody else needs a grant.

namespace ModelCatalog.Registry
open Ordered Store

def validateId (id : String) : Except Error Unit :=
  if id = "" then .error (.invalid .emptyModelId)
  else if maxModelIdLength < id.length then .error (.invalid .longModelId)
  else .ok ()

def authorize (c : Caller) (r : ModelRecord) (permission : Permission) : Except Error Unit :=
  if c.isAdmin || c.owns r.owner || grants r.access c permission then .ok ()
  else .error (.forbidden (.model r.id))

def load (id : String) : Action ModelRecord := do
  match ← ask (.getModel id) with
  | some r => return r
  | none => throw (.notFound (.model id))

-- One that is gone meanwhile is not found.
def save (r : ModelRecord) : Action ModelRecord := do
  match ← attempt (.updateModel r) with
  | .ok r => return r
  | .error (.missing _) => throw (.notFound (.model r.id))
  | .error e => throw (.storage e)

def list (c : Caller) (f : ModelFilter) : Action ModelPage := do
  let records ← ask .listModels
  let shown := f.sort (records.filter fun r => !r.isBase && f.accepts c r && visibleInListing c r)
  return ⟨f.paginate shown,shown.length⟩

def listBase : Action (List ModelRecord) := do
  return (← ask .listModels).filter (·.isBase)

def listTags : Action (List String) := do
  let names := (← ask .listModels).flatMap fun r => r.info.tags.map (·.name)
  return (KeySet.ofList (names.filter (· ≠ ""))).toList

def create (c : Caller) (form : ModelForm) (now : Timestamp) : Action ModelRecord := do
  validateId form.id
  if (← ask (.getModel form.id)).isSome then throw (.conflict (.model form.id))
  match ← attempt (.insertModel (.ofForm form c.id now)) with
  | .ok r => return r
  | .error (.duplicate id) => throw (.conflict (.model id))
  | .error e => throw (.storage e)

def exportFor (c : Caller) : Action (List ModelRecord) := do
  return (← ask .listModels).filter fun r => c.isAdmin || c.owns r.owner

def importItem (c : Caller) (now : Timestamp) (s : ImportSummary) (item : ModelImport) :
    Action ImportSummary := do
  match validateId item.id with
  | .error _ => return { s with skipped := s.skipped + 1 }
  | .ok () =>
    match ← ask (.getModel item.id) with
    | some stored =>
      let form ← item.overlay stored
      let _ ← save (stored.applyForm form now)
      return { s with updated := s.updated + 1 }
    | none =>
      let form ← item.toForm
      let _ ← ask (.insertModel (.ofForm form c.id now))
      return { s with created := s.created + 1 }

-- The first failure ends a batch, and what was written before stays.
def importItems (c : Caller) (items : List ModelImport) (now : Timestamp) : Action ImportSummary :=
  items.foldlM (importItem c now) ⟨0,0,0⟩

-- Nothing is written unless all ids are valid, and nothing is deleted unless all is written.
def syncReplace (c : Caller) (forms : List ModelForm) (now : Timestamp) :
    Action (List ModelRecord) := do
  forms.forM fun form => (validateId form.id : Action Unit)
  forms.forM fun form => do
    let _ ← ask (.upsertModel (.ofForm (form.own c.id) c.id now))
  let _ ← ask (.retainModels (KeySet.ofList (forms.map (·.id))))
  ask .listModels

def get (c : Caller) (id : String) : Action ModelRecord := do
  let r ← load id
  authorize c r .read
  return r

def toggle (c : Caller) (id : String) (now : Timestamp) : Action ModelRecord := do
  let r ← load id
  authorize c r .write
  save { r with isActive := !r.isActive,updatedAt := now }

def update (c : Caller) (id : String) (form : ModelForm) (now : Timestamp) : Action ModelRecord := do
  let r ← load id
  authorize c r .write
  save (r.applyForm form now)

def delete (c : Caller) (id : String) : Action Unit := do
  let r ← load id
  authorize c r .write
  if !(← ask (.deleteModel id)) then throw (.notFound (.model id))

def deleteAll : Action Nat := ask .deleteAllModels

end ModelCatalog.Registry
