import ModelCatalog.Json.Fault
import ModelCatalog.Ordered.Bounded

namespace ModelCatalog.Json
open Ordered Decimal

-- A text in which so many more containers may be opened, or a tree.
inductive Medium where
  | text (room : Nat)
  | tree
deriving DecidableEq

def Medium.document : Medium := .text 127

def Medium.enter : Medium → Except Fault Medium
  | .text 0 => .error .malformed
  | .text (room + 1) => .ok (.text room)
  | .tree => .ok .tree

structure Codec (α : Type) where
  write : α → Tree
  read : Medium → Node → Except Fault α

-- Reads what was found in a text: a value, and whether nothing but blanks follows it.
def Codec.readFrom (c : Codec α) (found : Node × Bool) : Except Fault α := do
  let value ← c.read .document found.1
  if found.2 then .ok value else .error .malformed

def Codec.readText (c : Codec α) (text : String) : Except Fault α := c.readFrom (Node.read text)

def Codec.readTree (c : Codec α) (tree : Tree) : Except Fault α := c.read .tree (.ofTree tree)

-- Free JSON has no expectations, so only malformed text is refused.
def Fault.guard (holds : Bool) : Except Fault Unit := if holds then .ok () else .error .malformed

namespace Node

mutual
def toTree (m : Medium) : Node → Except Fault Tree
  | .null => .ok .null
  | .bool b => .ok (.bool b)
  | .number (some n) => .ok (.number n)
  | .text (some s) => .ok (.text s)
  | .array items closed => do
    let items ← itemsToTrees (← m.enter) items
    Fault.guard closed
    return .array items
  | .object members stop => do
    let members ← membersToTrees (← m.enter) members
    Fault.guard stop.isNone
    return .object members
  | .number none | .text none | .broken => .error .malformed

def itemsToTrees (m : Medium) : List Node → Except Fault (List Tree)
  | [] => .ok []
  | item :: rest => do
    let item ← toTree m item
    return item :: (← itemsToTrees m rest)

def membersToTrees (m : Medium) :
    List (Option String × Node) → Except Fault (List (String × Tree))
  | [] => .ok []
  | (some key,item) :: rest => do
    let item ← toTree m item
    return (key,item) :: (← membersToTrees m rest)
  | (none,_) :: _ => .error .malformed
end

def key (k : Option String) : Except Fault String :=
  match k with
  | some k => .ok k
  | none => .error .malformed

end Node

namespace Codec

def bool : Codec Bool where
  write := .bool
  read _ node := match node with
    | .bool b => .ok b
    | node => .error (node.reject "a boolean")

def text : Codec String where
  write := .text
  read _ node := match node with
    | .text (some s) => .ok s
    | node => .error (node.reject "a string")

-- Of members with one key, the last counts.
def value : Codec Value where
  write := Value.tree
  read m node := (node.toTree m).map Value.ofTree

def real : Codec Double where
  write x := .number (.real x)
  read _ node := match node with
    | .number (some (.real x)) => .ok x
    | .number (some (.int i _)) => match Double.ofInt? i with
      | some x => .ok x
      | none => .error .malformed
    | node => .error (node.reject "f64")

def option (c : Codec α) : Codec (Option α) where
  write
    | none => .null
    | some a => c.write a
  read m node := match node with
    | .null => .ok none
    | node => (c.read m node).map some

def list (c : Codec α) : Codec (List α) where
  write items := .array (items.map c.write)
  read m node := match node with
    | .array items closed => do
      let inner ← m.enter
      let items ← items.mapM (c.read inner)
      Fault.guard closed
      return items
    | node => .error (node.reject "a sequence")

def set : Codec (KeySet String) where
  write s := (list text).write s.toList
  read m node := ((list text).read m node).map KeySet.ofList

def map (c : Codec α) : Codec (Keyed String α) where
  write m := .object (m.map c.write).entries
  read m node := match node with
    | .object members stop => do
      let inner ← m.enter
      let entries ← members.mapM fun (k,item) => do
        return (← Node.key k,← c.read inner item)
      Fault.guard stop.isNone
      return Keyed.ofList entries
    | node => .error (node.reject "a map")

def extensions : Codec Extensions := map value

def named? (values : List α) (name : α → String) (s : String) : Option α :=
  values.find? (fun a => name a = s)

-- The values are written as their names, and read as the single key of an object that holds null as well.
def enumeration (values : List α) (name : α → String) : Codec α where
  write a := .text (name a)
  read m node :=
    let pick (s : String) : Except Fault α := match named? values name s with
      | some a => .ok a
      | none => .error (.mismatch (.unknownVariant s (values.map name)))
    let single (k : Option String) (item : Node) : Except Fault α := do
      let a ← pick (← Node.key k)
      match item with
      | .null => return a
      | item => throw (item.reject "unit")
    match m,node with
    | _,.text (some s) => pick s
    | .text _,.object ((k,item) :: rest) stop => do
      let _ ← m.enter
      let a ← single k item
      Fault.guard (rest.isEmpty && stop.isNone)
      return a
    | .text _,.object [] (some stray) => do
      let _ ← m.enter
      throw (stray.reject "variant identifier")
    | .text _,_ => .error .malformed
    | .tree,.object [(k,item)] _ => single k item
    | .tree,.object _ _ => .error (.mismatch (.wrongValue .map "map with a single key"))
    | .tree,node => .error (node.reject "string or map")

def integer (type : String) (low high : Int) (lowRange : Integral low := by decide)
    (highRange : Integral high := by decide) : Codec (Bounded low high) where
  write a := .number (.int a.value ⟨by have := a.range; omega,by have := a.range; omega⟩)
  read _ node := match node with
    | .number (some (.int i range)) => match Bounded.ofInt? i with
      | some a => .ok a
      | none => .error (.mismatch (.wrongValue (.number (.int i range)) type))
    | node => .error (node.reject type)

def natural (type : String) (high : Nat) (range : high < 18446744073709551616 := by decide) :
    Codec Nat where
  write n := .number (Number.ofNat (min n high) (by omega))
  read _ node := match node with
    | .number (some (.int i range)) =>
      if 0 ≤ i ∧ i ≤ high then .ok i.toNat
      else .error (.mismatch (.wrongValue (.number (.int i range)) type))
    | node => .error (node.reject type)

def word (type : String) : Codec Nat := natural type 18446744073709551615

def size : Codec Nat := word "usize"

def signed64 : Codec Signed64 := integer "i64" _ _
def unsigned64 : Codec Unsigned64 := integer "u64" _ _ Integral.zero

end Codec
end ModelCatalog.Json
