import ModelCatalog.Command.Run
import Std.Time.DateTime.Timestamp

-- The program has no network, so providers cannot be reached.

namespace ModelCatalog
open Files

namespace Outer

def fullName (path : Path) : String := "/" ++ "/".intercalate path

-- What is at a path; what cannot be read as a file passes for a directory.
def look (path : Path) : IO (Option Item) := do
  try return some (.file (← IO.FS.readBinFile (fullName path)))
  catch
    | .noFileOrDirectory _ _ _ => return none
    | _ => return some .directory

def gather (disk : Disk) (paths : List Path) : IO Disk :=
  (paths.flatMap Disk.way).foldlM (fun disk path => do
    match ← look path with
    | some item => return ⟨disk.items.insert path item⟩
    | none => return disk) disk

def replace (path : Path) (bytes : ByteArray) : IO Unit := do
  IO.FS.createDirAll (fullName path.dropLast)
  let beside := fullName path ++ "~"
  IO.FS.writeBinFile beside bytes
  IO.FS.rename beside (fullName path)

def scatter (before after : Disk) : IO Unit :=
  after.items.entries.forM fun (path,item) => do
    if before.item? path ≠ some item then
      match item with
      | .file bytes => replace path bytes
      | .directory => IO.FS.createDirAll (fullName path)

partial def readAll (input : IO.FS.Stream) (text : String) : IO String := do
  let line ← input.getLine
  if line.isEmpty then return text
  readAll input (text ++ line)

def surroundings (invocation : Invocation) : IO Site := do
  let directory ← IO.currentDir
  let now ← Std.Time.Timestamp.now
  let site : Site := {
    disk := .empty
    directory := directory.toString
    home := (← IO.getEnv "HOME").getD ""
    projectDirectory := ← IO.getEnv "MOSAIC_PROJECT_CONFIG_DIR"
    now := Ordered.Bounded.clamp now.toSecondsSinceUnixEpoch.val }
  let configs := [site.userConfig,site.projectConfig] ++ invocation.config.toList
  let disk ← gather site.disk (configs.map site.locate)
  let store := match { site with disk }.settings invocation.config with
    | .ok settings => [settings.storePath]
    | .error _ => []
  let files := invocation.command.file?.toList
  let disk ← gather disk ((store ++ files).map site.locate)
  let input ← if files = ["-"] then readAll (← IO.getStdin) "" else pure ""
  return { site with disk,input }

def tell (outcome : Outcome) : IO UInt32 := do
  IO.print outcome.output
  outcome.warnings.forM fun warning => IO.eprintln ("warning: " ++ warning)
  outcome.error.toList.forM fun error => IO.eprintln ("Error: " ++ error)
  return outcome.code.toUInt32

end Outer
end ModelCatalog

open ModelCatalog in
def main (line : List String) : IO UInt32 := do
  match Command.ofLine line with
  | .error aside => Outer.tell aside.outcome
  | .ok invocation =>
    let site ← Outer.surroundings invocation
    let (outcome,disk) := Command.invoke site invocation
    Outer.scatter site.disk disk
    Outer.tell outcome
