import ModelCatalog.Ordered.Keyed

namespace ModelCatalog.Files
open Ordered

-- The names on the way from the root.
abbrev Path := List String

-- One way to compare bytes, whatever else is imported.
instance decideBytes : DecidableEq ByteArray := ByteArray.instDecidableEq

inductive Item where
  | file (bytes : ByteArray)
  | directory
deriving DecidableEq

-- A file system as a map from paths to files and directories. Its operations say no where a real one does: a file is
-- no directory, and nothing is written where there is no directory.
structure Disk where
  items : Keyed Path Item
deriving DecidableEq

inductive ReadError where
  | missing
  | unreadable
deriving DecidableEq

namespace Disk

def empty : Disk := ⟨∅⟩

-- The root is always a directory.
def item? (d : Disk) (path : Path) : Option Item :=
  if path = [] then some .directory else d.items.get? path

-- The paths on the way to a path, the path itself last.
def way (path : Path) : List Path := (List.range path.length).map fun n => path.take (n + 1)

-- Whether the way to a path leads through a file.
def blocked (d : Disk) (path : Path) : Bool :=
  (way path).any fun p => d.item? p ≠ none ∧ d.item? p ≠ some .directory

def readBytes (d : Disk) (path : Path) : Except ReadError ByteArray :=
  match d.item? path with
  | some (.file bytes) => .ok bytes
  | some .directory => .error .unreadable
  | none => .error (if d.blocked path then .unreadable else .missing)

-- A file that is read as text has to be one.
def read (d : Disk) (path : Path) : Except ReadError String :=
  (d.readBytes path).bind fun bytes => match String.fromUTF8? bytes with
    | some text => .ok text
    | none => .error .unreadable

-- Makes a directory and those on the way to it.
def makeDirs (d : Disk) (path : Path) : Option Disk :=
  (way path).foldlM (fun d p => match d.item? p with
    | some .directory => some d
    | some (.file _) => none
    | none => some ⟨d.items.insert p .directory⟩) d

def writeBytes (d : Disk) (path : Path) (bytes : ByteArray) : Option Disk :=
  if path = [] ∨ d.item? path.dropLast ≠ some .directory ∨ d.item? path = some .directory then none
  else some ⟨d.items.insert path (.file bytes)⟩

def write (d : Disk) (path : Path) (text : String) : Option Disk := d.writeBytes path text.toUTF8

-- What the system says where a file cannot be written.
def writeFault (d : Disk) (path : Path) : String :=
  if d.item? path = some .directory then "Is a directory (os error 21)"
  else if d.blocked path.dropLast then "Not a directory (os error 20)"
  else "No such file or directory (os error 2)"

def remove (d : Disk) (path : Path) : Disk := ⟨d.items.erase path⟩

-- Moves a file into a directory, in place of the file there.
def rename (d : Disk) (source target : Path) : Option Disk :=
  match d.item? source with
  | some (.file bytes) => (d.remove source).writeBytes target bytes
  | _ => none

-- Removes a directory and all that is in it.
def removeTree (d : Disk) (path : Path) : Disk :=
  ⟨d.items.filter fun entry => !path.isPrefixOf entry.1⟩

-- The names in a directory.
def names (d : Disk) (path : Path) : List String :=
  d.items.keys.filterMap fun p =>
    if p.dropLast = path then p.getLast? else none

end Disk
end ModelCatalog.Files
