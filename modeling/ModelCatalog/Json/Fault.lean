import ModelCatalog.Json.Bytes
import ModelCatalog.Text.Quoted

namespace ModelCatalog.Json

inductive Found where
  | null
  | bool (b : Bool)
  | number (n : Number)
  | text (s : String)
  | sequence
  | map
deriving DecidableEq

inductive Mismatch where
  | wrongType (found : Found) (expected : String)
  | wrongValue (found : Found) (expected : String)
  | wrongLength (length : Nat) (expected : String)
  | unknownVariant (name : String) (known : List String)
  | missingField (name : String)
  | duplicateField (name : String)
  | noAlternative (type : String)
deriving DecidableEq

inductive Fault where
  | malformed
  | mismatch (m : Mismatch)
deriving DecidableEq

namespace Found

def message : Found → String
  | .null => "null"
  | .bool b => "boolean `" ++ (if b then "true" else "false") ++ "`"
  | .number (.int i _) => "integer `" ++ toString i ++ "`"
  | .number (.real x) => "floating point `" ++ realText x ++ "`"
  | .text s => "string " ++ Text.quoted s
  | .sequence => "sequence"
  | .map => "map"

end Found

namespace Mismatch

def alternatives (known : List String) : String :=
  match known.map (fun name => "`" ++ name ++ "`") with
  | [] => "there are no variants"
  | [a] => "expected " ++ a
  | [a,b] => "expected " ++ a ++ " or " ++ b
  | all => "expected one of " ++ ", ".intercalate all

def message : Mismatch → String
  | .wrongType found expected => "invalid type: " ++ found.message ++ ", expected " ++ expected
  | .wrongValue found expected => "invalid value: " ++ found.message ++ ", expected " ++ expected
  | .wrongLength length expected => "invalid length " ++ toString length ++ ", expected " ++ expected
  | .unknownVariant name known => "unknown variant `" ++ name ++ "`, " ++ alternatives known
  | .missingField name => "missing field `" ++ name ++ "`"
  | .duplicateField name => "duplicate field `" ++ name ++ "`"
  | .noAlternative type => "data did not match any variant of untagged enum " ++ type

end Mismatch

def Fault.message? : Fault → Option String
  | .malformed => none
  | .mismatch m => some m.message

namespace Node

def found? : Node → Option Found
  | .null => some .null
  | .bool b => some (.bool b)
  | .number n => n.map .number
  | .text s => s.map .text
  | .array _ _ => some .sequence
  | .object _ _ => some .map
  | .broken => none

def reject (node : Node) (expected : String) : Fault :=
  match node.found? with
  | some found => .mismatch (.wrongType found expected)
  | none => .malformed

mutual
-- Whether a value is complete, whatever its numbers and strings say: all that is asked of a value that nobody reads.
def complete : Node → Bool
  | .array items closed => closed && completeItems items
  | .object members stop => stop.isNone && completeMembers members
  | .broken => false
  | _ => true

def completeItems : List Node → Bool
  | [] => true
  | item :: rest => item.complete && completeItems rest

def completeMembers : List (Option String × Node) → Bool
  | [] => true
  | (_,item) :: rest => item.complete && completeMembers rest
end

end Node
end ModelCatalog.Json
