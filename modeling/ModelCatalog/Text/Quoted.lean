import ModelCatalog.Text.Blank
import ModelCatalog.Text.Quoted.Table

namespace ModelCatalog.Text
namespace Quoted

def isShapeless (c : Char) : Bool :=
  let n := c.toNat
  if n < 0x7F then n < 0x20 else n < 0xA0 || inRanges shapelessRanges n

def escape (c : Char) : List Char :=
  match c with
  | '"' => ['\\','"']
  | '\\' => ['\\','\\']
  | '\x00' => ['\\','0']
  | '\t' => ['\\','t']
  | '\n' => ['\\','n']
  | '\r' => ['\\','r']
  | c => if isShapeless c then ['\\','u','{'] ++ Nat.toDigits 16 c.toNat ++ ['}'] else [c]

end Quoted

def quoted (s : String) : String :=
  String.ofList ('"' :: s.toList.flatMap Quoted.escape ++ ['"'])

end ModelCatalog.Text
