import ModelCatalog.Model.Params
import ModelCatalog.Settings.Layer
import ModelCatalog.Store.DocumentStore
import ModelCatalog.Web.Request

namespace ModelCatalog
open Files Store

structure Site where
  disk : Disk
  directory : String
  home : String
  projectDirectory : Option String := none
  input : String := ""
  now : Timestamp
  network : Web.Network := Web.Network.offline
  failure : Option CommitFailure := none

inductive Refusal where
  | configUnread (path : String)
  | configMalformed (path : String)
  | storeUnopened (path : String) (cause : StoreError)
  | fileUnread (path : String)
  | fileMalformed (path : String)
  | fileUnwritten (reason : String)
  | adminOnly
  | deleteAllUnconfirmed
  | syncUnconfirmed (count : Nat)
  | failed (error : Error)
deriving DecidableEq

def Refusal.message : Refusal → String
  | .configUnread path => "reading config " ++ path
  | .configMalformed path => "parsing config " ++ path
  | .storeUnopened path _ => "opening store " ++ path
  | .fileUnread path => "reading " ++ path
  | .fileMalformed path => "parsing " ++ path
  | .fileUnwritten reason => reason
  | .adminOnly => "delete-all requires the admin role"
  | .deleteAllUnconfirmed => "refusing to delete every model without --yes"
  | .syncUnconfirmed count =>
    "sync replaces the whole collection with " ++ toString count
      ++ " models and deletes the rest; rerun with --yes"
  | .failed error => error.message?.getD "storage error"

-- Whether the program does not refuse the command, but stops in the middle of it.
def Refusal.stops : Refusal → Bool
  | .storeUnopened _ .overflow | .failed (.storage .overflow) => true
  | _ => false

namespace Site

def walk (start : Path) (path : String) : Path :=
  ((path.toList.splitOn '/').map String.ofList).foldl (fun path name =>
    if name = "" ∨ name = "." then path
    else if name = ".." then path.dropLast
    else path ++ [name]) start

def locate (s : Site) (path : String) : Path :=
  if path.startsWith "/" then walk [] path else walk (walk [] s.directory) path

def within (directory path : String) : String :=
  if directory = "" then path
  else if directory.endsWith "/" then directory ++ path
  else directory ++ "/" ++ path

def userConfig (s : Site) : String := within s.home ".config/mosaic/config.toml"

def projectConfig (s : Site) : String :=
  match s.projectDirectory with
  | some directory => within directory "config.toml"
  | none => ".mosaic/config.toml"

def defaultStore (s : Site) : String := within s.home ".local/share/mosaic/store.json"

def layer (s : Site) (path : String) : Except Refusal Layer :=
  match s.disk.read (s.locate path) with
  | .error _ => .error (.configUnread path)
  | .ok text => match Layer.read? text with
    | some layer => .ok layer
    | none => .error (.configMalformed path)

def layerIfPresent (s : Site) (path : String) : Except Refusal Layer :=
  if (s.disk.item? (s.locate path)).isSome then s.layer path else .ok {}

-- The settings of the user, those of the project on them, and those of a file on both.
def settings (s : Site) (config : Option String) : Except Refusal Settings := do
  let user ← s.layerIfPresent s.userConfig
  let project ← s.layerIfPresent s.projectConfig
  let chosen ← match config with
    | some path => s.layer path
    | none => .ok {}
  return (chosen.above (project.above user)).settle s.defaultStore

end Site
end ModelCatalog
