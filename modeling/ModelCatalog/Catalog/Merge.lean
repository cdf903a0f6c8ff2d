import ModelCatalog.Catalog.Entry

-- Of entries with one id the first stays, and takes up the origins of the others.

namespace ModelCatalog.Catalog
open Ordered

def absorb (kept other : CatalogEntry) : CatalogEntry :=
  { kept with origin := other.origin.indices.foldl Origin.push kept.origin }

def add (catalog : Keyed String CatalogEntry) (entry : CatalogEntry) :
    Keyed String CatalogEntry :=
  match catalog.get? entry.id with
  | none => catalog.insert entry.id entry
  | some kept => catalog.insert entry.id (absorb kept entry)

def merge (batches : List (List CatalogEntry)) : List CatalogEntry :=
  (batches.flatten.foldl add ∅).values

end ModelCatalog.Catalog
