import ModelCatalog.Web.Domain
import ModelCatalog.Web.Percent

namespace ModelCatalog.Web

inductive AddressError where
  | relative
  | emptyHost
  | invalidPort
  | invalidIPv4
  | invalidIPv6
  | invalidDomain
  | invalidHostChar
deriving DecidableEq

def AddressError.message : AddressError → String
  | .relative => "relative URL without a base"
  | .emptyHost => "empty host"
  | .invalidPort => "invalid port number"
  | .invalidIPv4 => "invalid IPv4 address"
  | .invalidIPv6 => "invalid IPv6 address"
  | .invalidDomain => "invalid international domain name"
  | .invalidHostChar => "invalid domain character"

inductive Host where
  | name (s : String)
  | ipv4 (address : Nat)
  | ipv6 (pieces : List Nat)
deriving DecidableEq

namespace IPv4

def number? (base : Nat) (chars : List Char) : Option Nat :=
  chars.foldlM (fun n c => do
    let d ← Percent.hex? c
    if d < base then some (n * base + d) else none) 0

-- Decimal, octal behind a zero, or hexadecimal behind `0x`.
def part? (chars : List Char) : Option Nat :=
  match chars with
  | [] => none
  | '0' :: 'x' :: digits | '0' :: 'X' :: digits => number? 16 digits
  | '0' :: d :: digits => number? 8 (d :: digits)
  | digits => number? 10 digits

def parts (name : List Char) : List (List Char) :=
  let all := splitAt '.' name
  if all.length > 1 ∧ all.getLast? = some [] then all.dropLast else all

-- A name whose last part is a number has to be an address.
def endsInNumber (name : List Char) : Bool :=
  match (parts name).getLast? with
  | some last => (!last.isEmpty && last.all Char.isDigit) || (part? last).isSome
  | none => false

-- The last of up to four parts fills the bytes that are left.
def parse? (name : List Char) : Option Nat := do
  let numbers ← (parts name).mapM part?
  let last ← numbers.getLast?
  let leading := numbers.dropLast
  if leading.length > 3 ∨ leading.any (255 < ·) ∨ Nat.pow 256 (4 - leading.length) ≤ last then none
  else some (leading.zipIdx.foldl (fun address (n,i) => address + n * Nat.pow 256 (3 - i)) last)

def text (address : Nat) : String :=
  ".".intercalate ([3,2,1,0].map fun i => toString (address / Nat.pow 256 i % 256))

end IPv4

namespace IPv6

def byte? (chars : List Char) : Option Nat := do
  let n ← if chars.isEmpty ∨ !chars.all Char.isDigit then none else IPv4.number? 10 chars
  if 255 < n ∨ (chars.length > 1 ∧ chars.head? = some '0') then none else some n

def pieces? (allowDotted : Bool) : List (List Char) → Option (List Nat)
  | [] => some []
  | [group] =>
    if group.contains '.' then do
      let bytes ← (splitAt '.' group).mapM byte?
      match bytes,allowDotted with
      | [a,b,c,d],true => some [a * 256 + b,c * 256 + d]
      | _,_ => none
    else (group? group).map ([·])
  | group :: rest => do
    let first ← group? group
    return first :: (← pieces? allowDotted rest)
where
  group? (group : List Char) : Option Nat :=
    if group.isEmpty ∨ group.length > 4 then none else IPv4.number? 16 group

def side (chars : List Char) : List (List Char) := if chars.isEmpty then [] else splitAt ':' chars

def atDouble : List Char → Option (List Char × List Char)
  | ':' :: ':' :: rest => some ([],rest)
  | c :: rest => (atDouble rest).map fun (before,behind) => (c :: before,behind)
  | [] => none

-- A double colon stands for one or more pieces of zero.
def parse? (chars : List Char) : Option (List Nat) :=
  match atDouble chars with
  | some (before,behind) => do
    let left ← pieces? false (side before)
    let right ← pieces? true (side behind)
    let known := left.length + right.length
    if known < 8 then some (left ++ List.replicate (8 - known) 0 ++ right) else none
  | none => do
    let all ← pieces? true (side chars)
    if all.length = 8 then some all else none

def zeros (pieces : List Nat) : Nat := (pieces.takeWhile (· = 0)).length

-- The first of the longest runs of at least two zeros: where it starts, and its length.
def longest (pieces : List Nat) : Option (Nat × Nat) :=
  let runs := (List.range pieces.length).map fun i => (i,zeros (pieces.drop i))
  let best := runs.foldl (fun best run => if best.2 < run.2 then run else best) (0,1)
  if best.2 < 2 then none else some best

def text (pieces : List Nat) : String :=
  let group (n : Nat) : String := String.ofList (Nat.toDigits 16 n)
  let join (some : List Nat) : String := ":".intercalate (some.map group)
  "[" ++ (match longest pieces with
    | some (start,length) => join (pieces.take start) ++ "::" ++ join (pieces.drop (start + length))
    | none => join pieces) ++ "]"

end IPv6

namespace Host

def bracketed (chars : List Char) : Except AddressError Host :=
  match chars.getLast? with
  | some ']' => match IPv6.parse? (chars.drop 1).dropLast with
    | some pieces => .ok (.ipv6 pieces)
    | none => .error .invalidIPv6
  | _ => .error .invalidIPv6

def parse (chars : List Char) : Except AddressError Host :=
  if chars.head? = some '[' then bracketed chars
  else match ofUtf8? (Percent.decode chars) with
    | none => .error .invalidDomain
    | some decoded => match Domain.toAscii? decoded.toList with
      | none => .error .invalidDomain
      | some [] => .error .emptyHost
      | some domain =>
        if IPv4.endsInNumber domain then
          match IPv4.parse? domain with
          | some address => .ok (.ipv4 address)
          | none => .error .invalidIPv4
        else .ok (.name (String.ofList domain))

def parseOpaque (chars : List Char) : Except AddressError Host :=
  if chars.head? = some '[' then bracketed chars
  else if chars.any (fun c => ['\x00','\t','\n','\r',' ','#','/',':','<','>','?','@','[',
      '\\',']','^','|'].contains c) then .error .invalidHostChar
  else .ok (.name (String.ofList (Percent.encode Percent.control chars)))

def text : Host → String
  | .name s => s
  | .ipv4 address => IPv4.text address
  | .ipv6 pieces => IPv6.text pieces

end Host
end ModelCatalog.Web
