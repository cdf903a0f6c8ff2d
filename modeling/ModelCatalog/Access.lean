import ModelCatalog.Error
import ModelCatalog.Json.Layout

namespace ModelCatalog
open Ordered Json

inductive Role where
  | admin
  | user
deriving DecidableEq

def Role.name : Role → String
  | .admin => "admin"
  | .user => "user"

def Role.all : List Role := [.admin,.user]

def Role.parse (name : String) : Except Error Role :=
  match Codec.named? all Role.name name with
  | some role => .ok role
  | none => .error (.invalid (.unknownRole name))

structure Caller where
  id : String
  role : Role
  groups : KeySet String
deriving DecidableEq

namespace Caller

def user (id : String) : Caller := ⟨id,.user,∅⟩
def admin (id : String) : Caller := ⟨id,.admin,∅⟩
def withGroups (c : Caller) (groups : List String) : Caller := { c with groups := KeySet.ofList groups }
def isAdmin (c : Caller) : Bool := c.role = .admin
def owns (c : Caller) (owner : String) : Bool := c.id = owner

end Caller

structure AccessRule where
  users : KeySet String
  groups : KeySet String
deriving DecidableEq

namespace AccessRule

def ofUsers (ids : List String) : AccessRule := ⟨KeySet.ofList ids,∅⟩
def ofGroups (ids : List String) : AccessRule := ⟨∅,KeySet.ofList ids⟩

def names (rule : AccessRule) (c : Caller) : Bool :=
  rule.users.contains c.id || c.groups.toList.any (rule.groups.contains ·)

end AccessRule

-- A permission without a rule is granted to nobody.
structure AccessControl where
  read : Option AccessRule
  write : Option AccessRule
deriving DecidableEq

inductive Permission where
  | read
  | write
deriving DecidableEq

def AccessControl.rule? (a : AccessControl) : Permission → Option AccessRule
  | .read => a.read
  | .write => a.write

-- Where there are no grants at all, everything is open.
def grants (access : Option AccessControl) (c : Caller) (permission : Permission) : Bool :=
  match access with
  | none => true
  | some a => match a.rule? permission with
    | none => false
    | some rule => rule.names c

namespace Json.Codec

def role : Codec Role := enumeration Role.all Role.name

def caller : Codec Caller :=
  Layout.codec "Caller"
    (.field (.required "id" text) <|
      .field (.required "role" role) <|
      .field (.defaulted "groups" set ∅) .done)
    (fun c => (c.id,c.role,c.groups,()))
    (fun (id,role,groups,()) => ⟨id,role,groups⟩)

def accessRule : Codec AccessRule :=
  Layout.codec "AccessRule"
    (.field (.defaulted "user_ids" set ∅) <|
      .field (.defaulted "group_ids" set ∅) .done)
    (fun r => (r.users,r.groups,()))
    (fun (users,groups,()) => ⟨users,groups⟩)

def accessControl : Codec AccessControl :=
  Layout.codec "AccessControl"
    (.field (.optional "read" accessRule) <|
      .field (.optional "write" accessRule) .done)
    (fun a => (a.read,a.write,()))
    (fun (read,write,()) => ⟨read,write⟩)

end Json.Codec
end ModelCatalog
