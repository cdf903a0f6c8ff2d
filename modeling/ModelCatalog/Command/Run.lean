import ModelCatalog.Command.Line
import ModelCatalog.Command.Report
import ModelCatalog.Command.Site
import ModelCatalog.Registry.Models

namespace ModelCatalog
open Catalog Files Json Store

structure Outcome where
  code : Nat
  output : String := ""
  error : Option String := none
  warnings : List String := []
deriving DecidableEq

namespace Outcome

def ofReport (r : Report) : Outcome where
  code := 0
  output := String.join (r.lines.map (· ++ "\n"))
  warnings := r.warnings

def ofRefusal (r : Refusal) : Outcome :=
  if r.stops then { code := 101 } else { code := 1,error := some r.message }

def misuse : Outcome := { code := 2,error := some "usage" }

end Outcome

namespace Command

-- A job may be refused after a part of its work.
abbrev Job := ExceptT Refusal (StateM (DocumentStore × Disk))

def act (site : Site) (action : Action α) : Job α :=
  ExceptT.mk fun s =>
    let (result,s) := action.run (DocumentStore.answer site.failure) s
    (result.mapError .failed,s)

def contents (site : Site) (file : String) : Job String := do
  if file = "-" then return site.input
  let (_,disk) ← get
  match disk.read (site.locate file) with
  | .ok text => return text
  | .error _ => throw (.fileUnread file)

def load (site : Site) (codec : Codec α) (file : String) : Job α := do
  match codec.readText (← contents site file) with
  | .ok a => return a
  | .error _ => throw (.fileMalformed file)

def deliver (site : Site) (file text : String) : Job Unit := do
  let (store,disk) ← get
  match disk.write (site.locate file) text with
  | some disk => set (store,disk)
  | none => throw (.fileUnwritten (disk.writeFault (site.locate file)))

def say (text : String) : Report := Report.ofLines [text]

def execute (site : Site) (service : Service) (caller : Caller) : Command → Job Report
  | .listConnections json => do
    return Report.connections json (← act site Registry.Connections.list)
  | .addConnection form => do
    let c ← act site (Registry.Connections.create form site.now)
    return say ("Created connection " ++ toString c.id.value ++ " (" ++ c.name ++ ")")
  | .updateConnection id patch => do
    let c ← act site (Registry.Connections.update id patch site.now)
    return say ("Updated connection " ++ toString c.id.value ++ " (" ++ c.name ++ ")")
  | .removeConnection id => do
    act site (Registry.Connections.delete id)
    return say ("Removed connection " ++ toString id.value)
  | .verifyConnection id => do
    let status ← act site (service.verify { network := site.network } id)
    return say ("Connection " ++ toString id.value ++ " OK: " ++ toString status.status ++ " "
      ++ status.text)
  | .listConnectionModels id json => do
    let entries ← act site (service.connectionModels { network := site.network } id)
    return Report.entries json ("Connection " ++ toString id.value ++ " exposes no models.") entries
  | .showCatalog false json => do
    let entries ← act site (service.aggregate { network := site.network })
    return Report.entries json Report.noEntries entries
  | .showCatalog true json => do
    return Report.lenient json (← act site (service.aggregateLenient { network := site.network }))
  | .listModels filter json => do
    return Report.page json filter.page (← act site (Registry.list caller filter))
  | .listBaseModels json => do return Report.baseModels json (← act site Registry.listBase)
  | .listTags => do return Report.ofLines (← act site Registry.listTags)
  | .getModel id => do
    return Report.json (Codec.modelRecord.write (← act site (Registry.get caller id)))
  | .toggleModel id => do
    let m ← act site (Registry.toggle caller id site.now)
    return say ("Model " ++ m.id ++ " is now " ++ if m.isActive then "active" else "inactive")
  | .createModel file => do
    let form ← load site Codec.modelForm file
    let m ← act site (Registry.create caller form site.now)
    return say ("Created model " ++ m.id)
  | .updateModel id file => do
    let form ← load site Codec.modelForm file
    let m ← act site (Registry.update caller id form site.now)
    return say ("Updated model " ++ m.id)
  | .deleteModel id => do
    act site (Registry.delete caller id)
    return say ("Deleted model " ++ id)
  | .deleteAllModels confirmed => do
    if !caller.isAdmin then throw .adminOnly
    if !confirmed then throw .deleteAllUnconfirmed
    let count ← act site Registry.deleteAll
    return say ("Deleted " ++ toString count ++ " models")
  | .exportModels file => do
    let models ← act site (Registry.exportFor caller)
    let tree := (Codec.list Codec.modelRecord).write models
    match file with
    | none => return Report.json tree
    | some file =>
      deliver site file tree.pretty
      return say ("Exported " ++ toString models.length ++ " models to " ++ file)
  | .importModels file => do
    let items ← load site (Codec.list Codec.modelImport) file
    let s ← act site (Registry.importItems caller items site.now)
    return say ("Imported: " ++ toString s.created ++ " created, " ++ toString s.updated
      ++ " updated, " ++ toString s.skipped ++ " skipped")
  | .syncModels file confirmed => do
    let forms ← load site (Codec.list Codec.modelForm) file
    if !confirmed then throw (.syncUnconfirmed forms.length)
    let models ← act site (Registry.syncReplace caller forms site.now)
    return say ("Synced: " ++ toString models.length ++ " models in registry")

-- Nothing can be read from or written to a path without a name.
def openStore (site : Site) (path : String) : Except Refusal DocumentStore :=
  if path = "" then .ok ⟨[],.empty⟩
  else (DocumentStore.openAt (site.locate path) site.disk).mapError (.storeUnopened path)

def invoke (site : Site) (invocation : Invocation) : Outcome × Disk :=
  let prepared : Except Refusal (DocumentStore × Service) := do
    let settings ← site.settings invocation.config
    let store ← openStore site settings.storePath
    let service ← (Service.start settings.catalog).mapError .failed
    return (store,service)
  match prepared with
  | .error refusal => (.ofRefusal refusal,site.disk)
  | .ok (store,service) =>
    match (execute site service invocation.caller invocation.command).run.run (store,site.disk) with
    | (.ok report,_,disk) => (.ofReport report,disk)
    | (.error refusal,_,disk) => (.ofRefusal refusal,disk)

def title (separator : String) (words : List String) : String :=
  separator.intercalate ("mosaic" :: words)

def Aside.outcome : Aside → Outcome
  | .version words => .ofReport (say (title "-" words ++ " 0.1.0"))
  | .help words => .ofReport (say ("Usage: " ++ title " " words ++ " [OPTIONS] [COMMAND]"))
  | .misuse => .misuse

def run (site : Site) (line : List String) : Outcome × Disk :=
  match ofLine line with
  | .ok invocation => invoke site invocation
  | .error aside => (aside.outcome,site.disk)

end Command
end ModelCatalog
