-- A table remembers how it was made, because that decides what may still be added to it.

namespace ModelCatalog.Toml

-- Under a header of its own, on the way to a longer header, by a dotted key, or in one piece, which closes it.
inductive Making where
  | header
  | passage
  | dotted
  | inline
deriving DecidableEq

inductive Value where
  | text (s : String)
  | integer (i : Int)
  | boolean (b : Bool)
  | real (written : String)
  | moment (written : String)
  | array (items : List Value)
  | table (making : Making) (entries : List (String × Value))
  -- Tables under one header; only the last can be added to.
  | tables (items : List (List (String × Value)))

abbrev Entries := List (String × Value)

inductive Statement where
  | header (path : List String) (key : String)
  | element (path : List String) (key : String)
  | assign (path : List String) (key : String) (value : Value)

namespace Entries

def get? (entries : Entries) (key : String) : Option Value :=
  (entries.find? (fun entry => entry.1 = key)).map (·.2)

def put (key : String) (value : Value) : Entries → Entries
  | [] => [(key,value)]
  | (k,v) :: rest => if k = key then (key,value) :: rest else (k,v) :: put key value rest

-- Tables on the way that are not there are made. Those made in one piece are closed, dotted keys do not reach into
-- tables with a header, and of the tables under one header the last is meant.
def change (dotted : Bool) (f : Making → Entries → Option Entries) :
    List String → Making → Entries → Option Entries
  | [],making,entries => f making entries
  | key :: path,_,entries => do
    match entries.get? key with
    | none =>
      let making := if dotted then Making.dotted else .passage
      return entries.put key (.table making (← change dotted f path making []))
    | some (.table making inner) =>
      if making = .inline ∨ (dotted ∧ making = .header) then none
      return entries.put key (.table making (← change dotted f path making inner))
    | some (.tables items) =>
      let last ← change dotted f path .header (← items.getLast?)
      return entries.put key (.tables (items.dropLast ++ [last]))
    | some _ => none

def assign (path : List String) (key : String) (value : Value) (making : Making)
    (entries : Entries) : Option Entries :=
  change true (fun made entries =>
    if (path ≠ [] ∧ made ≠ .dotted) ∨ (entries.get? key).isSome then none
    else some (entries ++ [(key,value)])) path making entries

def openTable (path : List String) (key : String) : Entries → Option Entries :=
  change false (fun _ entries => match entries.get? key with
    | none => some (entries ++ [(key,.table .header [])])
    | some (.table .passage inner) => some (entries.put key (.table .header inner))
    | some _ => none) path .header

def openElement (path : List String) (key : String) : Entries → Option Entries :=
  change false (fun _ entries => match entries.get? key with
    | none => some (entries ++ [(key,.tables [[]])])
    | some (.tables items) => some (entries.put key (.tables (items ++ [[]])))
    | some _ => none) path .header

end Entries

def inlineTable (members : List (List String × String × Value)) : Option Value :=
  (members.foldlM (fun entries (path,key,value) => Entries.assign path key value .header entries)
    []).map (.table .inline)

structure Draft where
  root : Entries := []
  current : List String := []

def Draft.apply (d : Draft) : Statement → Option Draft
  | .header path key => (d.root.openTable path key).map fun root => ⟨root,path ++ [key]⟩
  | .element path key => (d.root.openElement path key).map fun root => ⟨root,path ++ [key]⟩
  | .assign path key value =>
    (d.root.change false (Entries.assign path key value) d.current .header).map fun root =>
      { d with root }

def ofStatements (statements : List Statement) : Option Entries :=
  (statements.foldlM Draft.apply {}).map Draft.root

end ModelCatalog.Toml
