import ModelCatalog.Command.Grammar
import ModelCatalog.Model.Filter
import ModelCatalog.Provider.Connection

namespace ModelCatalog
open Ordered Json

inductive Command where
  | listConnections (json : Bool)
  | addConnection (form : ConnectionForm)
  | updateConnection (id : ConnectionId) (patch : ConnectionPatch)
  | removeConnection (id : ConnectionId)
  | verifyConnection (id : ConnectionId)
  | listConnectionModels (id : ConnectionId) (json : Bool)
  | showCatalog (lenient json : Bool)
  | listModels (filter : ModelFilter) (json : Bool)
  | listBaseModels (json : Bool)
  | listTags
  | getModel (id : String)
  | toggleModel (id : String)
  | createModel (file : String)
  | updateModel (id file : String)
  | deleteModel (id : String)
  | deleteAllModels (confirmed : Bool)
  | exportModels (file : Option String)
  | importModels (file : String)
  | syncModels (file : String) (confirmed : Bool)

structure Invocation where
  command : Command
  caller : Caller
  config : Option String

namespace Command

def file? : Command → Option String
  | .createModel file | .updateModel _ file | .importModels file | .syncModels file _ => some file
  | .exportModels file => file
  | _ => none

def count? (text : String) : Option Nat :=
  let digits : List Char := match text.toList with
    | '+' :: digits => digits
    | digits => digits
  let n := digits.foldl (fun n c => n * 10 + (c.toNat - 48)) (0 : Nat)
  if digits ≠ [] ∧ digits.all Char.isDigit ∧ n ≤ 18446744073709551615 then some n else none

def id? (text : String) : Option ConnectionId := (count? text).bind fun n => Bounded.ofInt? n

def truth? : String → Option Bool
  | "true" => some true
  | "false" => some false
  | _ => none

-- A header is written as name and value with an equals sign between; the name is not blank.
def header? (text : String) : Option (String × String) :=
  match text.toList.span (· ≠ '=') with
  | (name,_ :: value) =>
    let name := Text.trim (String.ofList name)
    if name = "" then none else some (name,Text.trim (String.ofList value))
  | (_,[]) => none

def role? (text : String) : Option Role := (Role.parse text).toOption

def fileName? (text : String) : Option String := if text = "" then none else some text

def view? : String → Option View
  | "created" => some .created
  | "shared" => some .shared
  | _ => none

def orderBy? : String → Option OrderBy
  | "name" => some .name
  | "updated_at" => some .updatedAt
  | "created_at" => some .createdAt
  | _ => none

def direction? : String → Option Direction
  | "asc" => some .ascending
  | "desc" => some .descending
  | _ => none

def switch (name : String) : Opt := ⟨name,none,false⟩
def text (name : String) : Opt := ⟨name,some fun _ => true,false⟩
def texts (name : String) : Opt := ⟨name,some fun _ => true,true⟩

def typed (name : String) (read : String → Option α) : Opt := ⟨name,some fun v => (read v).isSome,false⟩

def word : Operand := {}
def typedWord (read : String → Option α) : Operand := ⟨fun v => (read v).isSome,true⟩

def callerOf (g : Given) : Caller where
  id := (g.get? "user").getD "local"
  role := ((g.get? "role").bind role?).getD .admin
  groups := KeySet.ofList (g.all "group")

def anywhere : Anywhere where
  options := [switch "verbose",typed "config" fileName?,text "user",typed "role" role?,texts "group"]
  short
    | 'v' => some (switch "verbose")
    | _ => none

def command (options : List Opt) (operands : List Operand) (meaning : Given → Option Command) :
    Grammar Invocation :=
  .command options operands fun g => do
    return ⟨← meaning g,callerOf g,g.get? "config"⟩

def addForm (g : Given) : Option ConnectionForm := do
  return {
    kind := some (← (g.get? "type").bind ProviderKind.ofName?)
    name := ← g.get? "name"
    baseUrl := ← g.get? "url"
    apiKey := (g.get? "api-key").getD ""
    enabled := !g.has "disabled"
    label := g.get? "connection-type"
    qualifier := g.get? "prefix"
    tags := g.all "tag"
    modelIds := g.all "model"
    headers := Keyed.ofList ((g.all "header").filterMap header?)
    authType := if g.has "no-auth" then .none else .bearer
    apiVersion := g.get? "api-version"
    azure := g.has "azure" }

-- A list that is not given stays as it is.
def replacement (items : List String) : Option (List String) := if items = [] then none else some items

def patch (g : Given) : ConnectionPatch where
  name := g.get? "name"
  baseUrl := g.get? "url"
  apiKey := g.get? "api-key"
  qualifier := g.get? "prefix"
  modelIds := replacement (g.all "model")
  tags := replacement (g.all "tag")
  enabled := (g.get? "enable").bind truth?

def filter (g : Given) : ModelFilter where
  query := g.get? "query"
  view := ((g.get? "view").bind view?).getD .all
  tag := g.get? "tag"
  orderBy := ((g.get? "order-by").bind orderBy?).getD .createdAt
  direction := ((g.get? "direction").bind direction?).getD .descending
  page := (g.get? "page").bind count?

def first (g : Given) : Option String := g.operands.head?

def firstId (g : Given) : Option ConnectionId := (first g).bind id?

def connections : List (String × Grammar Invocation) := [
  ("list",command [switch "json"] [] fun g => some (.listConnections (g.has "json"))),
  ("add",command
    [typed "type" ProviderKind.ofName?,text "name",text "url",text "api-key",text "prefix",
      texts "model",texts "tag",{ typed "header" header? with repeatable := true },
      text "connection-type",switch "no-auth",switch "azure",text "api-version",
      switch "disabled"]
    [] fun g => (addForm g).map .addConnection),
  ("update",command
    [text "name",text "url",text "api-key",text "prefix",texts "model",texts "tag",
      typed "enable" truth?]
    [typedWord id?] fun g => (firstId g).map fun id => .updateConnection id (patch g)),
  ("remove",command [] [typedWord id?] fun g => (firstId g).map .removeConnection),
  ("verify",command [] [typedWord id?] fun g => (firstId g).map .verifyConnection),
  ("models",command [switch "json"] [typedWord id?] fun g =>
    (firstId g).map fun id => .listConnectionModels id (g.has "json"))]

def models : List (String × Grammar Invocation) := [
  ("list",command
    [text "query",typed "view" view?,text "tag",typed "order-by" orderBy?,
      typed "direction" direction?,typed "page" count?,switch "json"]
    [] fun g => some (.listModels (filter g) (g.has "json"))),
  ("base",command [switch "json"] [] fun g => some (.listBaseModels (g.has "json"))),
  ("tags",command [] [] fun _ => some .listTags),
  ("get",command [] [word] fun g => (first g).map .getModel),
  ("toggle",command [] [word] fun g => (first g).map .toggleModel),
  ("create",command [] [typedWord fileName?] fun g => (first g).map .createModel),
  ("update",command [] [word,typedWord fileName?] fun g => do
    return .updateModel (← first g) (← g.operands[1]?)),
  ("delete",command [] [word] fun g => (first g).map .deleteModel),
  ("delete-all",command [switch "yes"] [] fun g => some (.deleteAllModels (g.has "yes"))),
  ("export",command [] [{ typedWord fileName? with required := false }] fun g =>
    some (.exportModels (first g))),
  ("import",command [] [typedWord fileName?] fun g => (first g).map .importModels),
  ("sync",command [switch "yes"] [typedWord fileName?] fun g =>
    (first g).map fun file => .syncModels file (g.has "yes"))]

def grammar : Grammar Invocation := .group [
  ("connections",.group connections),
  ("catalog",command [switch "lenient",switch "json"] [] fun g =>
    some (.showCatalog (g.has "lenient") (g.has "json"))),
  ("models",.group models)]

def ofLine (line : List String) : Except Aside Invocation := grammar.read anywhere line

end Command
end ModelCatalog
