import ModelCatalog.Text.Blank
import ModelCatalog.Text.LowerCase.Table

-- Letters are mapped one by one, with two exceptions: a capital I with a dot becomes an i and a combining dot, and a
-- capital sigma at the end of a word becomes a final sigma.

namespace ModelCatalog.Text
namespace LowerCase

def ofChar (c : Char) : List Char :=
  let n := c.toNat
  if n < 0x80 then [if 'A' ≤ c ∧ c ≤ 'Z' then Char.ofNat (n + 32) else c]
  else if n = 0x130 then ['i','\u0307']
  else match runs.find? (fun (first,last,step,_) => first ≤ n && n ≤ last && (n - first) % step = 0) with
    | some (first,_,_,target) => [Char.ofNat (target + (n - first))]
    | none => [c]

def isCased (c : Char) : Bool := inRanges casedRanges c.toNat
def isIgnorable (c : Char) : Bool := inRanges ignorableRanges c.toNat

def nextIsCased (chars : List Char) : Bool :=
  match chars.find? (fun c => !isIgnorable c) with
  | some c => isCased c
  | none => false

-- What stands before is read backwards.
def ofList (before : List Char) : List Char → List Char
  | [] => []
  | c :: rest =>
    (if c = 'Σ' then [if nextIsCased before && !nextIsCased rest then 'ς' else 'σ'] else ofChar c)
      ++ ofList (c :: before) rest

end LowerCase

def lowerCase (s : String) : String := String.ofList (LowerCase.ofList [] s.toList)

end ModelCatalog.Text
