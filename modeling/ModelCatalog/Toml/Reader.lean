import ModelCatalog.Date
import ModelCatalog.Decimal.Double
import ModelCatalog.Toml.Value

-- A reader takes something from the front of the characters and leaves the rest, or finds nothing.

namespace ModelCatalog.Toml

abbrev Reader := StateT (List Char) Option

namespace Reader

def peek : Reader (Option Char) := fun s => some (s.head?,s)

def char (c : Char) : Reader Unit
  | d :: rest => if d = c then some ((),rest) else none
  | [] => none

def span (p : Char → Bool) : Reader (List Char) := fun s => some (s.takeWhile p,s.dropWhile p)

def upTo (r : Reader α) : Nat → Reader (List α)
  | 0 => pure []
  | n + 1 => (do return (← r) :: (← upTo r n)) <|> pure []

-- A reader that takes something is never asked more often than there are characters.
def many (r : Reader α) : Reader (List α) := fun s => upTo r s.length s

def separated (r : Reader α) (between : Char) : Reader (List α) := do
  return (← r) :: (← many (do char between; r))

def whole (r : Reader α) (s : List Char) : Option α :=
  match r s with
  | some (a,[]) => some a
  | _ => none

end Reader
open Reader

def isSpace (c : Char) : Bool := c = ' ' || c = '\t'
def spaces : Reader Unit := do let _ ← span isSpace

def isPlain (c : Char) : Bool := c = '\t' || (0x20 ≤ c.toNat && c.toNat ≠ 0x7F)

def comment : Reader Unit := do
  char '#'
  let _ ← span isPlain

def lineEnd : Reader Unit := do
  spaces
  comment <|> pure ()
  match ← peek with
  | none => pure ()
  | some _ => char '\n'

def gap : Reader Unit := do
  let _ ← many (do spaces; comment <|> pure (); char '\n')
  spaces

def ofHex (digits : List Char) : Option Char := do
  let n ← digits.foldlM (fun n c => do
    let d ← if c.isDigit then some (c.toNat - 48)
      else if 'a' ≤ c ∧ c ≤ 'f' then some (c.toNat - 87)
      else if 'A' ≤ c ∧ c ≤ 'F' then some (c.toNat - 55)
      else none
    return n * 16 + d) 0
  if n < 0xD800 ∨ (0xDFFF < n ∧ n < 0x110000) then some (Char.ofNat n) else none

def ofLetter : Char → Option Char
  | 'b' => some '\x08'
  | 't' => some '\t'
  | 'n' => some '\n'
  | 'f' => some '\x0c'
  | 'r' => some '\r'
  | '"' => some '"'
  | '\\' => some '\\'
  | _ => none

abbrev Span := Option (List Char × List Char)

def push (c : Option Char) (s : Span) : Span := do
  let c ← c
  let (chars,rest) ← s
  return (c :: chars,rest)

def basic : List Char → Span
  | [] => none
  | '"' :: rest => some ([],rest)
  | '\\' :: 'u' :: a :: b :: c :: d :: rest => push (ofHex [a,b,c,d]) (basic rest)
  | '\\' :: 'U' :: a :: b :: c :: d :: e :: f :: g :: h :: rest =>
    push (ofHex [a,b,c,d,e,f,g,h]) (basic rest)
  | '\\' :: c :: rest => push (ofLetter c) (basic rest)
  | c :: rest => if isPlain c && c ≠ '\\' then push (some c) (basic rest) else none

-- Up to two quotes behind the three that end a string belong to the string.
def closing (quote : Char) (rest : List Char) : List Char × List Char :=
  let more := (rest.take 2).takeWhile (· = quote)
  (more,rest.drop more.length)

-- While `folding`, blanks and ends of lines are dropped.
def longBasic (folding : Bool) : List Char → Span
  | [] => none
  | '"' :: '"' :: '"' :: rest => some (closing '"' rest)
  | '\\' :: 'u' :: a :: b :: c :: d :: rest => push (ofHex [a,b,c,d]) (longBasic false rest)
  | '\\' :: 'U' :: a :: b :: c :: d :: e :: f :: g :: h :: rest =>
    push (ofHex [a,b,c,d,e,f,g,h]) (longBasic false rest)
  | '\\' :: c :: rest =>
    if ((c :: rest).dropWhile isSpace).head? = some '\n' then longBasic true rest
    else push (ofLetter c) (longBasic false rest)
  | c :: rest =>
    if folding && (isSpace c || c = '\n') then longBasic true rest
    else if (isPlain c && c ≠ '\\') || c = '\n' then push (some c) (longBasic false rest)
    else none

def longLiteral : List Char → Span
  | [] => none
  | '\'' :: '\'' :: '\'' :: rest => some (closing '\'' rest)
  | c :: rest => if isPlain c || c = '\n' then push (some c) (longLiteral rest) else none

def literal (s : List Char) : Span :=
  match s.span (fun c => isPlain c && c ≠ '\'') with
  | (chars,'\'' :: rest) => some (chars,rest)
  | _ => none

def skipLine : List Char → List Char
  | '\n' :: rest => rest
  | s => s

def shortString : Reader String := fun s => match s with
  | '"' :: rest => (basic rest).map fun (chars,rest) => (String.ofList chars,rest)
  | '\'' :: rest => (literal rest).map fun (chars,rest) => (String.ofList chars,rest)
  | _ => none

def string : Reader String := fun s => match s with
  | '"' :: '"' :: '"' :: rest =>
    (longBasic false (skipLine rest)).map fun (chars,rest) => (String.ofList chars,rest)
  | '\'' :: '\'' :: '\'' :: rest =>
    (longLiteral (skipLine rest)).map fun (chars,rest) => (String.ofList chars,rest)
  | s => shortString s

def number (digits low high : Nat) : Reader Nat := fun s =>
  let (front,rest) := s.splitAt digits
  let n := front.foldl (fun n c => n * 10 + (c.toNat - 48)) 0
  if front.length = digits ∧ front.all Char.isDigit ∧ low ≤ n ∧ n ≤ high then some (n,rest) else none

def date : Reader Unit := do
  let year ← number 4 0 9999
  char '-'
  let month ← number 2 1 12
  char '-'
  let _ ← number 2 1 (Date.daysInMonth year month)

def time : Reader Unit := do
  let _ ← number 2 0 23
  char ':'
  let _ ← number 2 0 59
  char ':'
  let _ ← number 2 0 60
  (do char '.'; if (← span Char.isDigit).isEmpty then failure) <|> pure ()

def offset : Reader Unit := do
  char 'Z' <|> char 'z' <|> do
    char '+' <|> char '-'
    let _ ← number 2 0 23
    char ':'
    let _ ← number 2 0 59

def timeOfDate : Reader Unit := do time; offset <|> pure ()

def ungroup (isDigit : Char → Bool) (s : List Char) : Option (List Char) := do
  let groups := (String.ofList s).splitOn "_"
  if groups.all (fun g => g ≠ "" && g.toList.all isDigit) then
    return groups.flatMap String.toList
  none

def decimal (s : List Char) : Option (List Char) := do
  let digits ← ungroup Char.isDigit s
  if digits.head? = some '0' ∧ s ≠ ['0'] then none else return digits

def value (base : Nat) (digits : List Char) : Nat :=
  digits.foldl (fun n c => n * base +
    (if c.isDigit then c.toNat - 48 else if c.isLower then c.toNat - 87 else c.toNat - 55)) 0

def unsigned (s : List Char) : Bool × List Char :=
  match s with
  | '-' :: rest => (true,rest)
  | '+' :: rest => (false,rest)
  | s => (false,s)

def isHex (c : Char) : Bool := c.isDigit || ('a' ≤ c && c ≤ 'f') || ('A' ≤ c && c ≤ 'F')

def integer (s : List Char) : Option Int := do
  let i : Int ← match s with
    | '0' :: 'x' :: digits => (ungroup isHex digits).map fun d => (value 16 d : Int)
    | '0' :: 'o' :: digits =>
      (ungroup (fun c => '0' ≤ c && c ≤ '7') digits).map fun d => (value 8 d : Int)
    | '0' :: 'b' :: digits =>
      (ungroup (fun c => c = '0' || c = '1') digits).map fun d => (value 2 d : Int)
    | s =>
      let (negative,s) := unsigned s
      (decimal s).map fun d => if negative then -(value 10 d : Int) else (value 10 d : Int)
  if -9223372036854775808 ≤ i ∧ i ≤ 9223372036854775807 then some i else none

def isHuge (digits : List Char) (scale : Int) : Bool :=
  let n := value 10 digits
  let places : Int := (Nat.toDigits 10 n).length + scale
  if n = 0 ∨ places < 0 then false
  else if 400 < places then true
  else if 0 ≤ scale then Decimal.Double.bound ≤ Decimal.Double.nearest (n * Nat.pow 10 scale.toNat) 1
  else Decimal.Double.bound ≤ Decimal.Double.nearest n (Nat.pow 10 (-scale).toNat)

def isReal (s : List Char) : Bool :=
  let (negative,s) := unsigned s
  if s = ['i','n','f'] ∨ s = ['n','a','n'] then true
  else
    let (mantissa,exponent) := s.span (fun c => c ≠ 'e' && c ≠ 'E')
    let (whole,fraction) := mantissa.span (· ≠ '.')
    let (exponentNegative,exponentDigits) := unsigned (exponent.drop 1)
    let digits : Option (List Char × List Char × List Char) := do
      if exponent = [] ∧ fraction = [] then none
      let whole ← decimal whole
      let fraction ← if fraction = [] then some [] else ungroup Char.isDigit (fraction.drop 1)
      let exponent ← if exponent = [] then some [] else ungroup Char.isDigit exponentDigits
      return (whole,fraction,exponent)
    match digits with
    | none => false
    | some (whole,fraction,exponent) =>
      let e : Int := if exponentNegative then -(value 10 exponent : Int) else value 10 exponent
      negative || !isHuge (whole ++ fraction) (e - fraction.length)

def isScalarChar (c : Char) : Bool :=
  c.isAlphanum || c = '+' || c = '-' || c = '_' || c = '.' || c = ':'

-- A date may have a time behind a blank.
def scalar : Reader Value := do
  let word ← span isScalarChar
  let written := String.ofList word
  if written = "true" then return .boolean true
  if written = "false" then return .boolean false
  if let some i := integer word then return .integer i
  if isReal word then return .real written
  if (whole date word).isSome then
    (do
      char ' '
      let clock ← span isScalarChar
      if (whole timeOfDate clock).isNone then failure
      return .moment (written ++ " " ++ String.ofList clock)) <|> pure (.moment written)
  else if (whole time word).isSome
      ∨ (whole (do date; char 'T' <|> char 't'; timeOfDate) word).isSome then
    return .moment written
  else failure

def isKeyChar (c : Char) : Bool := c.isAlphanum || c = '_' || c = '-'

def simpleKey : Reader String := do
  shortString <|> do
    let chars ← span isKeyChar
    if chars.isEmpty then failure
    return String.ofList chars

-- A key is at most so many names long, and values are nested less deep.
def maxDepth : Nat := 80

def key : Reader (List String × String) := do
  let names ← separated (do spaces; let name ← simpleKey; spaces; return name) '.'
  match names.getLast? with
  | some last => if names.length < maxDepth then return (names.dropLast,last) else failure
  | none => failure

def assignment (value : Reader Value) : Reader (List String × String × Value) := do
  let (path,name) ← key
  char '='
  spaces
  return (path,name,← value)

def valueWithin : Nat → Reader Value
  | 0 => (.text <$> string) <|> scalar
  | room + 1 => do
    match ← peek with
    | some '[' =>
      char '['
      let items ← separated (do gap; let item ← valueWithin room; gap; return item) ',' <|> pure []
      if !items.isEmpty then char ',' <|> pure ()
      gap
      char ']'
      return .array items
    | some '{' =>
      char '{'
      let members ←
        separated (do let member ← assignment (valueWithin room); spaces; return member) ','
          <|> pure []
      spaces
      char '}'
      match inlineTable members with
      | some table => return table
      | none => failure
    | some '"' | some '\'' => .text <$> string
    | _ => scalar

def line : Reader (Option Statement) := do
  if (← peek).isNone then failure
  spaces
  match ← peek with
  | none | some '\n' | some '#' =>
    lineEnd
    return none
  | some '[' =>
    char '['
    if (← peek) = some '[' then
      char '['
      let (path,name) ← key
      char ']'
      char ']'
      lineEnd
      return some (.element path name)
    let (path,name) ← key
    char ']'
    lineEnd
    return some (.header path name)
  | _ =>
    let (path,name,value) ← assignment (valueWithin (maxDepth - 1))
    lineEnd
    return some (.assign path name value)

def unifyLines : List Char → List Char
  | [] => []
  | '\r' :: '\n' :: rest => '\n' :: unifyLines rest
  | c :: rest => c :: unifyLines rest

def read (text : String) : Option Entries := do
  let chars := match text.toList with
    | '\uFEFF' :: rest => rest
    | chars => chars
  ofStatements ((← whole (many line) (unifyLines chars)).filterMap id)

end ModelCatalog.Toml
