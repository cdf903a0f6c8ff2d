import ModelCatalog.Provider.Kind

namespace ModelCatalog
open Ordered Json

-- One position, or a list of them once the model was met again.
inductive Origin where
  | single (index : Nat)
  | merged (indices : List Nat)
deriving DecidableEq

namespace Origin

def push (o : Origin) (index : Nat) : Origin :=
  match o with
  | .single first => if first = index then .single first else .merged [first,index]
  | .merged indices => if indices.contains index then .merged indices else .merged (indices ++ [index])

def indices : Origin → List Nat
  | .single index => [index]
  | .merged indices => indices

def first (o : Origin) : Nat := o.indices.head?.getD 0

end Origin

structure CatalogEntry where
  id : String
  name : String
  ownedBy : ProviderKind
  label : String
  origin : Origin
  tags : List String
  raw : Value
deriving DecidableEq

structure VerifyStatus where
  status : Nat
  text : String
deriving DecidableEq

namespace Json.Codec

-- Two forms of an object, told apart by which of them fits; nothing but the object itself says which.
def singleOrigin : Layout (Nat × Unit) (Option Nat × Unit) := .field (.required "url_idx" size) .done

def mergedOrigin : Layout (List Nat × Unit) (Option (List Nat) × Unit) :=
  .field (.required "urls" (list size)) .done

def originOf (members : List (Option String × Node)) : Except Fault Origin :=
  let node := Node.object members none
  match singleOrigin.read "Origin" .tree node with
  | .ok (index,()) => .ok (.single index)
  | .error _ => match mergedOrigin.read "Origin" .tree node with
    | .ok (indices,()) => .ok (.merged indices)
    | .error _ => .error (.mismatch (.noAlternative "Origin"))

def originMembers : Origin → List (String × Tree)
  | .single index => singleOrigin.write (index,())
  | .merged indices => mergedOrigin.write (indices,())

def origin : Codec Origin where
  write o := .object (originMembers o)
  read m node := do
    let _ ← node.toTree m
    match node with
    | .object members _ => originOf members
    | _ => .error (.mismatch (.noAlternative "Origin"))

def entryHead : Layout (String × String × ProviderKind × String × Unit)
    (Option String × Option String × Option ProviderKind × Option String × Unit) :=
  .field (.required "id" text) <|
    .field (.required "name" text) <|
    .field (.required "owned_by" providerKind) <|
    .field (.required "connection_type" text) .done

def entryTail : Layout (List String × Value × Unit) (Option (List String) × Option Value × Unit) :=
  .field (.nonempty "tags" (list text) [] List.isEmpty) <|
    .field (.required "raw" value) .done

structure EntrySlots where
  head := entryHead.blank
  tail := entryTail.blank
  others : List (Option String × Node) := []

-- A member of an entry, or one that is kept for the origin and has to be complete.
def EntrySlots.fill (m : Medium) (s : EntrySlots) (member : Option String × Node) :
    Except Fault EntrySlots := do
  let name ← Node.key member.1
  match entryHead.fill? m name member.2 s.head with
  | some filled => return { s with head := ← filled }
  | none => match entryTail.fill? m name member.2 s.tail with
    | some filled => return { s with tail := ← filled }
    | none =>
      let _ ← member.2.toTree m
      return { s with others := s.others ++ [member] }

def catalogEntry : Codec CatalogEntry where
  write e := .object (entryHead.write (e.id,e.name,e.ownedBy,e.label,()) ++ originMembers e.origin
    ++ entryTail.write (e.tags,e.raw,()))
  read m node := match node with
    | .object members stop => do
      let inner ← m.enter
      let slots ← members.foldlM (EntrySlots.fill inner) {}
      Fault.guard stop.isNone
      let (id,name,ownedBy,label,()) ← entryHead.settle slots.head
      let (tags,raw,()) ← entryTail.settle slots.tail
      let origin ← originOf slots.others
      return { id,name,ownedBy,label,origin,tags,raw }
    | node => .error (node.reject "struct CatalogEntry")

def verifyStatus : Codec VerifyStatus :=
  Layout.codec "VerifyStatus"
    (.field (.required "status" (natural "u16" 65535)) <|
      .field (.required "status_text" text) .done)
    (fun v => (v.status,v.text,()))
    (fun (status,text,()) => ⟨status,text⟩)

end Json.Codec
end ModelCatalog
