import ModelCatalog.Model.Record

namespace ModelCatalog
open Ordered Json

inductive View where
  | all
  | created
  | shared
deriving DecidableEq

inductive OrderBy where
  | name
  | updatedAt
  | createdAt
deriving DecidableEq

inductive Direction where
  | ascending
  | descending
deriving DecidableEq

structure ModelFilter where
  query : Option String := none
  view : View := .all
  tag : Option String := none
  orderBy : OrderBy := .createdAt
  direction : Direction := .descending
  page : Option Nat := none
deriving DecidableEq

def pageSize : Nat := 30

def pageCount (total : Nat) : Nat := (total + (pageSize - 1)) / pageSize

namespace ModelFilter

def given (text : Option String) : Option String := text.filter (· ≠ "")

def accepts (f : ModelFilter) (c : Caller) (r : ModelRecord) : Bool :=
  (match given f.query with
    | some query => r.matchesQuery query
    | none => true)
  && (match f.view with
    | .all => true
    | .created => c.owns r.owner
    | .shared => !c.owns r.owner)
  && (match given f.tag with
    | some tag => r.hasTag tag
    | none => true)

-- The id decides between equal keys.
def compare (f : ModelFilter) (a b : ModelRecord) : Ordering :=
  let ordering := (match f.orderBy with
    | .name => Ord.compare a.name b.name
    | .updatedAt => Ord.compare a.updatedAt b.updatedAt
    | .createdAt => Ord.compare a.createdAt b.createdAt).then (Ord.compare a.id b.id)
  match f.direction with
  | .ascending => ordering
  | .descending => ordering.swap

def sort (f : ModelFilter) (records : List ModelRecord) : List ModelRecord :=
  records.mergeSort (fun a b => (f.compare a b).isLE)

-- Page zero is the first one.
def paginate (f : ModelFilter) (records : List ModelRecord) : List ModelRecord :=
  match f.page with
  | none => records
  | some page => (records.drop ((page - 1) * pageSize)).take pageSize

end ModelFilter

-- Its owner, administrators and those with write access see a model.
def visibleInListing (c : Caller) (r : ModelRecord) : Bool :=
  c.isAdmin || c.owns r.owner || grants r.access c .write

structure ModelPage where
  items : List ModelRecord
  total : Nat
deriving DecidableEq

structure ImportSummary where
  created : Nat
  updated : Nat
  skipped : Nat
deriving DecidableEq

namespace Json.Codec

def view : Codec View :=
  enumeration [.all,.created,.shared] fun
    | .all => ""
    | .created => "created"
    | .shared => "shared"

def orderBy : Codec OrderBy :=
  enumeration [.name,.updatedAt,.createdAt] fun
    | .name => "name"
    | .updatedAt => "updated_at"
    | .createdAt => "created_at"

def direction : Codec Direction :=
  enumeration [.ascending,.descending] fun
    | .ascending => "asc"
    | .descending => "desc"

def modelFilter : Codec ModelFilter :=
  Layout.codec "ModelFilter"
    (.field (.defaulted "query" (option text) none) <|
      .field (.defaulted "view" view .all) <|
      .field (.defaulted "tag" (option text) none) <|
      .field (.defaulted "order_by" orderBy .createdAt) <|
      .field (.defaulted "direction" direction .descending) <|
      .field (.defaulted "page" (option size) none) .done)
    (fun f => (f.query,f.view,f.tag,f.orderBy,f.direction,f.page,()))
    (fun (query,view,tag,orderBy,direction,page,()) =>
      { query,view,tag,orderBy,direction,page })

def modelPage : Codec ModelPage :=
  Layout.codec "ModelPage"
    (.field (.required "items" (list modelRecord)) <|
      .field (.required "total" size) .done)
    (fun p => (p.items,p.total,()))
    (fun (items,total,()) => ⟨items,total⟩)

def importSummary : Codec ImportSummary :=
  Layout.codec "ImportSummary"
    (.field (.required "created" size) <|
      .field (.required "updated" size) <|
      .field (.required "skipped" size) .done)
    (fun s => (s.created,s.updated,s.skipped,()))
    (fun (created,updated,skipped,()) => ⟨created,updated,skipped⟩)

end Json.Codec
end ModelCatalog
