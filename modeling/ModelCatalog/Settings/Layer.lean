import ModelCatalog.Catalog.Config
import ModelCatalog.Toml.Reader

namespace ModelCatalog

structure Layer where
  storePath : Option String := none
  verifyTimeout : Option Nat := none
  listTimeout : Option Nat := none
  maxConcurrency : Option Nat := none
  skipDisabled : Option Bool := none
  userAgent : Option String := none
deriving DecidableEq

structure Settings where
  storePath : String
  catalog : CatalogConfig
deriving DecidableEq

namespace Layer
open Toml

def above (upper lower : Layer) : Layer where
  storePath := upper.storePath.or lower.storePath
  verifyTimeout := upper.verifyTimeout.or lower.verifyTimeout
  listTimeout := upper.listTimeout.or lower.listTimeout
  maxConcurrency := upper.maxConcurrency.or lower.maxConcurrency
  skipDisabled := upper.skipDisabled.or lower.skipDisabled
  userAgent := upper.userAgent.or lower.userAgent

def settle (l : Layer) (defaultStorePath : String) : Settings :=
  let defaults : CatalogConfig := {}
  { storePath := l.storePath.getD defaultStorePath
    catalog := {
      verifyTimeout := l.verifyTimeout.getD defaults.verifyTimeout
      listTimeout := l.listTimeout.getD defaults.listTimeout
      maxConcurrency := l.maxConcurrency.getD defaults.maxConcurrency
      skipDisabled := l.skipDisabled.getD defaults.skipDisabled
      userAgent := l.userAgent } }

-- A table has its fields by name, an array in their order, and what else is there does not matter; a moment is a part
-- that says nothing.
def fields (root : Entries) (part : String) (names : List String) : Option (List (Option Value)) :=
  match root.get? part with
  | none | some (.moment _) => some (names.map fun _ => none)
  | some (.table _ entries) => some (names.map fun name => Entries.get? entries name)
  | some (.array items) =>
    if names.length ≤ items.length then some ((items.take names.length).map some) else none
  | some _ => none

def text? : Value → Option String
  | .text s => some s
  | _ => none

def flag? : Value → Option Bool
  | .boolean b => some b
  | _ => none

def count? : Value → Option Nat
  | .integer i => if 0 ≤ i then some i.toNat else none
  | _ => none

def optional (read : Value → Option α) : Option Value → Option (Option α)
  | none => some none
  | some value => (read value).map some

def ofToml? (root : Entries) : Option Layer := do
  let store ← fields root "store" ["path"]
  let catalog ← fields root "catalog"
    ["verify_timeout_secs","list_timeout_secs","max_concurrency","skip_disabled","user_agent"]
  match store,catalog with
  | [path],[verifyTimeout,listTimeout,maxConcurrency,skipDisabled,userAgent] =>
    return {
      storePath := ← optional text? path
      verifyTimeout := ← optional count? verifyTimeout
      listTimeout := ← optional count? listTimeout
      maxConcurrency := ← optional count? maxConcurrency
      skipDisabled := ← optional flag? skipDisabled
      userAgent := ← optional text? userAgent }
  | _,_ => none

def read? (text : String) : Option Layer := (Toml.read text).bind ofToml?

end Layer
end ModelCatalog
