import ModelCatalog.Json.Tree

namespace ModelCatalog.Json
namespace Tree

def hexByte (n : Nat) : List Char :=
  let digits := Nat.toDigits 16 n
  List.replicate (2 - digits.length) '0' ++ digits

def escapeChar (c : Char) : List Char :=
  match c with
  | '"' => ['\\','"']
  | '\\' => ['\\','\\']
  | '\x08' => ['\\','b']
  | '\x0c' => ['\\','f']
  | '\n' => ['\\','n']
  | '\r' => ['\\','r']
  | '\t' => ['\\','t']
  | c => if c.toNat < 0x20 then ['\\','u','0','0'] ++ hexByte c.toNat else [c]

def quote (s : String) : List Char := '"' :: s.toList.flatMap escapeChar ++ ['"']

mutual
def compactChars : Tree → List Char
  | .null => "null".toList
  | .bool b => if b then "true".toList else "false".toList
  | .number n => n.text.toList
  | .text s => quote s
  | .array items => '[' :: compactItems items ++ [']']
  | .object members => '{' :: compactMembers members ++ ['}']

def compactItems : List Tree → List Char
  | [] => []
  | [item] => compactChars item
  | item :: rest => compactChars item ++ ',' :: compactItems rest

def compactMembers : List (String × Tree) → List Char
  | [] => []
  | [(key,item)] => quote key ++ ':' :: compactChars item
  | (key,item) :: rest => quote key ++ ':' :: compactChars item ++ ',' :: compactMembers rest
end

def newline (depth : Nat) : List Char := '\n' :: List.replicate (2 * depth) ' '

mutual
def prettyChars (depth : Nat) : Tree → List Char
  | .null => "null".toList
  | .bool b => if b then "true".toList else "false".toList
  | .number n => n.text.toList
  | .text s => quote s
  | .array [] => ['[',']']
  | .array items => '[' :: prettyItems (depth + 1) items ++ newline depth ++ [']']
  | .object [] => ['{','}']
  | .object members => '{' :: prettyMembers (depth + 1) members ++ newline depth ++ ['}']

def prettyItems (depth : Nat) : List Tree → List Char
  | [] => []
  | [item] => newline depth ++ prettyChars depth item
  | item :: rest => newline depth ++ prettyChars depth item ++ ',' :: prettyItems depth rest

def prettyMembers (depth : Nat) : List (String × Tree) → List Char
  | [] => []
  | [(key,item)] => newline depth ++ quote key ++ ':' :: ' ' :: prettyChars depth item
  | (key,item) :: rest =>
    newline depth ++ quote key ++ ':' :: ' ' :: prettyChars depth item
      ++ ',' :: prettyMembers depth rest
end

def compact (t : Tree) : String := String.ofList t.compactChars

def pretty (t : Tree) : String := String.ofList (t.prettyChars 0)

end Tree
end ModelCatalog.Json
