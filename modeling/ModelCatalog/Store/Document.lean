import ModelCatalog.Json.Printer
import ModelCatalog.Store.Contents

-- Reading looks at the version first, so that a document of another version is told apart whatever else it holds.

namespace ModelCatalog.Store
open Ordered Json

def version : Nat := 1

structure Listed where
  models : List ModelRecord
  connections : List Connection
  nextId : Unsigned64

def header : Codec Nat :=
  Layout.codec "Header" (.field (.required "version" (Codec.natural "u32" 4294967295)) .done)
    (fun v => (v,())) (fun (v,()) => v)

def listedLayout : Layout (List ModelRecord × List Connection × Unsigned64 × Unit)
    (Option (List ModelRecord) × Option (List Connection) × Option Unsigned64 × Unit) :=
  .field (.defaulted "models" (Codec.list Codec.modelRecord) []) <|
    .field (.defaulted "connections" (Codec.list Codec.connection) []) <|
    .field (.defaulted "next_connection_id" Codec.unsigned64 ConnectionId.unassigned) .done

def listed : Codec Listed :=
  Layout.codec "Document" listedLayout (fun d => (d.models,d.connections,d.nextId,()))
    (fun (models,connections,nextId,()) => ⟨models,connections,nextId⟩)

def toTree (s : Contents) : Tree :=
  .object (("version",(Codec.natural "u32" 4294967295).write version)
    :: listedLayout.write (s.models.values,s.connections.values,s.nextId,()))

def encode (s : Contents) : String := (toTree s).pretty

def Listed.highest (d : Listed) : ConnectionId := (d.connections.map (·.id)).foldl max ConnectionId.unassigned

-- The contents that a document lists. The next id is raised above every listed one, so that no id is given out twice.
def Listed.contents (d : Listed) : Except StoreError Contents :=
  match Contents.succ? d.highest with
  | none => .error .overflow
  | some above => .ok {
      models := Keyed.ofList (d.models.map fun m => (m.id,m))
      connections := Keyed.ofList (d.connections.map fun c => (c.id,c))
      nextId := max d.nextId above }

def decodeFrom (found : Node × Bool) : Except StoreError Contents := do
  let v ← (header.readFrom found).mapError .serialization
  if v ≠ version then throw (.unsupportedVersion v)
  let d ← (listed.readFrom found).mapError .serialization
  d.contents

def decode (text : String) : Except StoreError Contents := decodeFrom (Node.read text)

-- A document as the bytes of its file, which need not be text.
def decodeBytes (bytes : ByteArray) : Except StoreError Contents := decodeFrom (Node.readBytes bytes)

end ModelCatalog.Store
