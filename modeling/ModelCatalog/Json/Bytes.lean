import ModelCatalog.Json.Node

namespace ModelCatalog.Json

-- The characters of bytes from a position on. A byte that begins no character stands for itself as none, and the next
-- one may begin a character again.
def characters (bytes : ByteArray) (i : Nat) : List (Option Char) :=
  if i < bytes.size then
    match bytes.utf8DecodeChar? i with
    | some c => some c :: characters bytes (i + c.utf8Size)
    | none => none :: characters bytes (i + 1)
  else []
termination_by bytes.size - i
decreasing_by
  · have := c.utf8Size_pos
    omega
  · omega

namespace Scan

-- A byte that begins no character spoils the string it stands in, which matters only where the string is asked for;
-- anywhere else it fits no token.
def stepByte (place : Place) (c : Option Char) : List Token × Place :=
  match place,c with
  | place,some c => step place c
  | .text { chars,valid := _,half := _,escape := .none },none =>
    ([],.text { chars,valid := false,half := none,escape := .none })
  | place,none => step place '\x00'

end Scan

-- The value at the front of bytes, and whether nothing but blanks follows it.
def Node.readBytes (bytes : ByteArray) : Node × Bool :=
  ((Scan.collect Scan.stepByte (characters bytes 0)).foldl Progress.feed (.within [])).result

end ModelCatalog.Json
