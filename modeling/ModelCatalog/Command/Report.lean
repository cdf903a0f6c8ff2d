import ModelCatalog.Catalog.Service
import ModelCatalog.Date
import ModelCatalog.Json.Printer
import ModelCatalog.Model.Filter
import ModelCatalog.Terminal.Table

namespace ModelCatalog
open Json Terminal

structure Report where
  lines : List String
  warnings : List String := []
deriving DecidableEq

namespace Report

def ofLines (lines : List String) : Report := ⟨lines,[]⟩
def json (tree : Tree) : Report := ofLines [tree.pretty]

def yesNo (b : Bool) : String := if b then "yes" else "no"

def entriesTable (entries : List CatalogEntry) : Table where
  header := ["Model","Name","Provider","Type","Connections"]
  rows := entries.map fun e =>
    [e.id,e.name,e.ownedBy.name,e.label,
      ", ".intercalate (e.origin.indices.map fun i => "#" ++ toString i)]

def modelsTable (models : List ModelRecord) : Table where
  header := ["ID","Name","Base","Owner","Active","Updated"]
  rows := models.map fun m =>
    [shorten 32 m.id,shorten 32 m.name,m.baseModelId.getD "-",m.owner,yesNo m.isActive,
      dayText m.updatedAt.value]

def connectionsTable (connections : List Connection) : Table where
  header := ["#","ID","Name","Type","URL","Prefix","Enabled"]
  rows := connections.zipIdx.map fun (c,index) =>
    [toString index,toString c.id.value,c.name,c.kind.name,shorten 48 c.baseUrl,
      c.qualifier.getD "-",yesNo c.enabled]

def redact (c : Connection) : Connection :=
  if c.apiKey = "" then c else { c with apiKey := "[REDACTED]" }

def connections (json : Bool) (connections : List Connection) : Report :=
  if json then Report.json ((Codec.list Codec.connection).write (connections.map redact))
  else if connections = [] then
    ofLines ["No connections registered.","",
      "Add one with: mosaic connections add --type ollama --name local --url http://localhost:11434"]
  else ofLines [(connectionsTable connections).text]

def entries (json : Bool) (none : String) (entries : List CatalogEntry) : Report :=
  if json then Report.json ((Codec.list Codec.catalogEntry).write entries)
  else if entries = [] then ofLines [none]
  else ofLines [(entriesTable entries).text]

def noEntries : String := "No models available from any connection."

def failureTree (f : Catalog.Failure) : Tree :=
  .object [("index",Codec.size.write f.index),("connection_id",Codec.unsigned64.write f.id),
    ("status",Codec.size.write f.error.status),("error",.text (f.error.message?.getD ""))]

def failureWarning (f : Catalog.Failure) : String :=
  "connection " ++ toString f.id.value ++ " (#" ++ toString f.index ++ ") skipped: "
    ++ f.error.message?.getD ""

def lenient (json : Bool) (catalog : Catalog.Lenient) : Report :=
  if json then
    Report.json (.object [("entries",(Codec.list Codec.catalogEntry).write catalog.entries),
      ("failures",.array (catalog.failures.map failureTree))])
  else { entries false noEntries catalog.entries with
    warnings := catalog.failures.map failureWarning }

def page (json : Bool) (page : Option Nat) (models : ModelPage) : Report :=
  if json then Report.json (Codec.modelPage.write models)
  else if models.items = [] then
    ofLines ["No models match (" ++ toString models.total ++ " total)."]
  else
    let below := match page with
      | some page =>
        ["Page " ++ toString page ++ " of " ++ toString (pageCount models.total) ++ " ("
          ++ toString models.total ++ " models, " ++ toString pageSize ++ " per page)"]
      | none => []
    ofLines ((modelsTable models.items).text :: below)

def baseModels (json : Bool) (models : List ModelRecord) : Report :=
  if json then Report.json ((Codec.list Codec.modelRecord).write models)
  else if models = [] then ofLines ["No base models registered."]
  else ofLines [(modelsTable models).text]

end Report
end ModelCatalog
