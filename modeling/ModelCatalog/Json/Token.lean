import ModelCatalog.Json.Number

-- The scanner is one step per character, so scanning is a left fold; it stops at the first character that fits no
-- token and leaves a fault there.

namespace ModelCatalog.Json

inductive Token where
  | arrayStart | arrayEnd | objectStart | objectEnd | comma | colon
  | null
  | bool (b : Bool)
  | number (n : Option Number)
  | text (s : Option String)
  | fault
deriving DecidableEq

namespace Scan

inductive Escape where
  | none
  | backslash
  | unit (digits value : Nat)

-- The characters of a string, last first, whether all are characters, and the first half of a surrogate pair that
-- waits for the second.
structure PartialText where
  chars : List Char := []
  valid : Bool := true
  half : Option Nat := none
  escape : Escape := .none

namespace PartialText

def push (t : PartialText) (c : Char) : PartialText :=
  { t with chars := c :: t.chars,valid := t.valid && t.half.isNone,half := none,escape := .none }

def pushUnit (t : PartialText) (u : Nat) : PartialText :=
  let second := 0xDC00 ≤ u ∧ u ≤ 0xDFFF
  match t.half with
  | some first =>
    if second then
      { t with
        chars := Char.ofNat (0x10000 + (first - 0xD800) * 0x400 + (u - 0xDC00)) :: t.chars
        half := none,escape := .none }
    else { t with valid := false,half := none,escape := .none }
  | none =>
    if 0xD800 ≤ u ∧ u ≤ 0xDBFF then { t with half := some u,escape := .none }
    else if second then { t with valid := false,escape := .none }
    else t.push (Char.ofNat u)

def value? (t : PartialText) : Option String :=
  if t.valid ∧ t.half.isNone then some (String.ofList t.chars.reverse) else none

end PartialText

inductive NumeralPlace where
  | sign | zero | whole | point | fraction | mark | markSign | exponent

def NumeralPlace.complete : NumeralPlace → Bool
  | .zero | .whole | .fraction | .exponent => true
  | .sign | .point | .mark | .markSign => false

inductive Place where
  | between
  | word (rest : List Char) (token : Token)
  | text (t : PartialText)
  | numeral (n : Numeral) (place : NumeralPlace)
  | stopped

def digit? (c : Char) : Option Nat :=
  if '0' ≤ c ∧ c ≤ '9' then some (c.toNat - 48) else none

def hexDigit? (c : Char) : Option Nat :=
  if '0' ≤ c ∧ c ≤ '9' then some (c.toNat - 48)
  else if 'a' ≤ c ∧ c ≤ 'f' then some (c.toNat - 87)
  else if 'A' ≤ c ∧ c ≤ 'F' then some (c.toNat - 55)
  else none

def escaped? : Char → Option Char
  | '"' => some '"'
  | '\\' => some '\\'
  | '/' => some '/'
  | 'b' => some '\x08'
  | 'f' => some '\x0c'
  | 'n' => some '\n'
  | 'r' => some '\r'
  | 't' => some '\t'
  | _ => none

def start (c : Char) : List Token × Place :=
  match c with
  | ' ' | '\n' | '\t' | '\r' => ([],.between)
  | '[' => ([.arrayStart],.between)
  | ']' => ([.arrayEnd],.between)
  | '{' => ([.objectStart],.between)
  | '}' => ([.objectEnd],.between)
  | ',' => ([.comma],.between)
  | ':' => ([.colon],.between)
  | '"' => ([],.text {})
  | 'n' => ([],.word ['u','l','l'] .null)
  | 't' => ([],.word ['r','u','e'] (.bool true))
  | 'f' => ([],.word ['a','l','s','e'] (.bool false))
  | '-' => ([],.numeral { negative := true } .sign)
  | c => match digit? c with
    | some 0 => ([],.numeral { whole := [0] } .zero)
    | some d => ([],.numeral { whole := [d] } .whole)
    | none => ([.fault],.stopped)

def continue? (n : Numeral) (place : NumeralPlace) (c : Char) : Option (Numeral × NumeralPlace) :=
  match place,digit? c with
  | .sign,some 0 => some ({ n with whole := [0] },.zero)
  | .sign,some d => some ({ n with whole := [d] },.whole)
  | .whole,some d => some ({ n with whole := d :: n.whole },.whole)
  | .point,some d | .fraction,some d => some ({ n with fraction := d :: n.fraction },.fraction)
  | .mark,some d | .markSign,some d | .exponent,some d =>
    some ({ n with exponent := d :: n.exponent },.exponent)
  | .zero,none | .whole,none =>
    if c = '.' then some ({ n with fractional := true },.point)
    else if c = 'e' ∨ c = 'E' then some ({ n with fractional := true },.mark)
    else none
  | .fraction,none => if c = 'e' ∨ c = 'E' then some (n,.mark) else none
  | .mark,none =>
    if c = '+' then some (n,.markSign)
    else if c = '-' then some ({ n with exponentNegative := true },.markSign)
    else none
  | _,_ => none

def textStep (t : PartialText) (c : Char) : List Token × Place :=
  match t.escape with
  | .none =>
    if c = '"' then ([.text t.value?],.between)
    else if c = '\\' then ([],.text { t with escape := .backslash })
    else if c.toNat < 0x20 then ([.fault],.stopped)
    else ([],.text (t.push c))
  | .backslash =>
    if c = 'u' then ([],.text { t with escape := .unit 0 0 })
    else match escaped? c with
      | some e => ([],.text (t.push e))
      | none => ([.fault],.stopped)
  | .unit digits value => match hexDigit? c with
    | some d =>
      if digits = 3 then ([],.text (t.pushUnit (value * 16 + d)))
      else ([],.text { t with escape := .unit (digits + 1) (value * 16 + d) })
    | none => ([.fault],.stopped)

-- A character that does not continue a complete numeral starts the next token, unless it is a digit behind a leading
-- zero.
def step (place : Place) (c : Char) : List Token × Place :=
  match place with
  | .between => start c
  | .word [] token => ([token],.stopped)
  | .word [last] token => if c = last then ([token],.between) else ([.fault],.stopped)
  | .word (next :: rest) token => if c = next then ([],.word rest token) else ([.fault],.stopped)
  | .text t => textStep t c
  | .numeral n place => match continue? n place c with
    | some (n,place) => ([],.numeral n place)
    | none =>
      if place.complete ∧ (digit? c).isNone then
        let (tokens,next) := start c
        (.number n.value? :: tokens,next)
      else ([.fault],.stopped)
  | .stopped => ([],.stopped)

def finish : Place → List Token
  | .between | .stopped => []
  | .numeral n place => if place.complete then [.number n.value?] else [.fault]
  | .word _ _ | .text _ => [.fault]

-- All tokens that are completed where each step takes one character.
def collect (step : Place → α → List Token × Place) (chars : List α) : List Token :=
  let (read,place) := chars.foldl
    (fun (read,place) c => let (new,next) := step place c; (new.reverse ++ read,next)) ([],.between)
  ((finish place).reverse ++ read).reverse

end Scan

def tokens (chars : List Char) : List Token := Scan.collect Scan.step chars

end ModelCatalog.Json
