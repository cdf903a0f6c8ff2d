import ModelCatalog.Files.Disk
import ModelCatalog.Store.Document
import ModelCatalog.Store.Script

-- A change is made on a copy, written to a file beside the document and moved into its place, and only then counts;
-- so the document is always one that was written whole.

namespace ModelCatalog.Store
open Files

structure DocumentStore where
  path : Path
  live : Contents
deriving DecidableEq

-- A failing write may leave anything in the file beside the document.
inductive CommitFailure where
  | makeDirs
  | write (left : Option ByteArray)
  | rename
deriving DecidableEq

def temporary (path : Path) : Path :=
  match path.getLast? with
  | none => []
  | some name =>
    let stem := match name.toList.reverse.dropWhile (· ≠ '.') with
      | _ :: before => if before = [] then name.toList else before.reverse
      | [] => name.toList
    path.dropLast ++ [String.ofList stem ++ ".json.tmp"]

def commit (failure : Option CommitFailure) (path : Path) (text : String) (d : Disk) : Bool × Disk :=
  match if failure = some .makeDirs then none else d.makeDirs path.dropLast with
  | none => (false,d)
  | some d =>
    match failure with
    | some (.write left) => (false,(left.bind (d.writeBytes (temporary path))).getD d)
    | failure =>
      match d.write (temporary path) text with
      | none => (false,d)
      | some d =>
        match if failure = some .rename then none else d.rename (temporary path) path with
        | none => (false,d)
        | some d => (true,d)

namespace DocumentStore

def openAt (path : Path) (d : Disk) : Except StoreError DocumentStore :=
  match d.readBytes path with
  | .ok bytes => (decodeBytes bytes).map fun live => ⟨path,live⟩
  | .error .missing => .ok ⟨path,.empty⟩
  | .error .unreadable => .error .io

def answer (failure : Option CommitFailure) : Backend (DocumentStore × Disk) := fun call (s,d) =>
  match s.live.answer call with
  | .error e => (.error e,s,d)
  | .ok (answer,next) =>
    if call.writes answer then
      match commit failure s.path (encode next) d with
      | (true,d) => (.ok answer,{ s with live := next },d)
      | (false,d) => (.error .io,s,d)
    else (.ok answer,s,d)

def reliable : Backend (DocumentStore × Disk) := answer none

end DocumentStore
end ModelCatalog.Store
