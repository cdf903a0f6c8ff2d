import ModelCatalog.Json.Codec

-- An object is read in two steps: its members fill slots from front to back, then the slots are taken in the order of
-- the layout, where what is missing has its default or is a mismatch. An array gives the fields by position.

namespace ModelCatalog.Json

-- What stands for a field that is not there: nothing does, a value does when the record is an object, or a value does
-- in either form.
inductive Absent (α : Type) where
  | required
  | implied (a : α)
  | default (a : α)

-- A field is not written when its value passes the test `leftOut`.
structure Field (α : Type) where
  name : String
  codec : Codec α
  absent : Absent α := .required
  leftOut : α → Bool := fun _ => false

namespace Field

def missing (f : Field α) : Except Fault α :=
  match f.absent with
  | .required => .error (.mismatch (.missingField f.name))
  | .implied a | .default a => .ok a

def beyond (f : Field α) (position : Nat) (expected : String) : Except Fault α :=
  match f.absent with
  | .default a => .ok a
  | _ => .error (.mismatch (.wrongLength position expected))

def required (name : String) (codec : Codec α) : Field α := { name,codec }

def defaulted (name : String) (codec : Codec α) (a : α) : Field α :=
  { name,codec,absent := .default a }

def optional (name : String) (codec : Codec α) : Field (Option α) :=
  { name,codec := codec.option,absent := .default none,leftOut := Option.isNone }

def nonempty (name : String) (codec : Codec α) (empty : α) (isEmpty : α → Bool) : Field α :=
  { name,codec,absent := .default empty,leftOut := isEmpty }

end Field

inductive Layout : Type → Type → Type 1 where
  | done : Layout Unit Unit
  | field {α β σ : Type} (f : Field α) (rest : Layout β σ) : Layout (α × β) (Option α × σ)

namespace Layout

def names : Layout τ σ → List String
  | done => []
  | field f rest => f.name :: rest.names

def blank : Layout τ σ → σ
  | done => ()
  | field _ rest => (none,rest.blank)

def write : Layout τ σ → τ → List (String × Tree)
  | done,() => []
  | field f rest,(a,values) =>
    if f.leftOut a then rest.write values else (f.name,f.codec.write a) :: rest.write values

def fill? (m : Medium) (name : String) (node : Node) : Layout τ σ → σ → Option (Except Fault σ)
  | done,() => none
  | field f rest,(slot,slots) =>
    if name = f.name then
      some (match slot with
        | some _ => .error (.mismatch (.duplicateField name))
        | none => (f.codec.read m node).map fun a => (some a,slots))
    else (rest.fill? m name node slots).map fun r => r.map fun slots => (slot,slots)

-- A member without a slot only has to be complete.
def fill (l : Layout τ σ) (m : Medium) (slots : σ) (member : Option String × Node) :
    Except Fault σ := do
  let name ← Node.key member.1
  match l.fill? m name member.2 slots with
  | some filled => filled
  | none =>
    Fault.guard member.2.complete
    return slots

def settle : Layout τ σ → σ → Except Fault τ
  | done,() => .ok ()
  | field f rest,(slot,slots) => do
    let a ← match slot with
      | some a => .ok a
      | none => f.missing
    return (a,← rest.settle slots)

def readItems (m : Medium) (expected : String) (closed : Bool) :
    Layout τ σ → Nat → List Node → Except Fault (τ × List Node)
  | done,_,items => .ok ((),items)
  | field f rest,position,[] => do
    Fault.guard closed
    let a ← f.beyond position expected
    let (values,left) ← rest.readItems m expected closed (position + 1) []
    return ((a,values),left)
  | field f rest,position,item :: items => do
    let a ← f.codec.read m item
    let (values,left) ← rest.readItems m expected closed (position + 1) items
    return ((a,values),left)

def expectation (l : Layout τ σ) (type : String) : String :=
  let n := l.names.length
  "struct " ++ type ++ " with " ++ toString n ++ (if n = 1 then " element" else " elements")

def read (type : String) (l : Layout τ σ) (m : Medium) (node : Node) : Except Fault τ :=
  match node with
  | .object members stop => do
    let inner ← m.enter
    let slots ← members.foldlM (l.fill inner) l.blank
    Fault.guard stop.isNone
    l.settle slots
  | .array items closed => do
    let inner ← m.enter
    let (values,left) ← l.readItems inner (l.expectation type) closed 0 items
    match m,left with
    | .tree,_ :: _ =>
      throw (.mismatch (.wrongLength items.length "fewer elements in array"))
    | _,left =>
      Fault.guard (closed && left.isEmpty)
      return values
  | node => .error (node.reject ("struct " ++ type))

def codec (type : String) (l : Layout τ σ) (parts : α → τ) (make : τ → α) : Codec α where
  write a := .object (l.write (parts a))
  read m node := (l.read type m node).map make

end Layout
end ModelCatalog.Json
