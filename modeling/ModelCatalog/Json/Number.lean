import ModelCatalog.Decimal.Shortest

namespace ModelCatalog.Json
open Decimal

abbrev Integral (i : Int) : Prop := -9223372036854775808 ≤ i ∧ i < 18446744073709551616

theorem Integral.zero : Integral 0 := by decide

inductive Number where
  | int (value : Int) (range : Integral value)
  | real (value : Double)
deriving DecidableEq

def Number.ofInt? (i : Int) : Option Number :=
  if h : Integral i then some (.int i h) else none

def Number.ofNat (n : Nat) (small : n < 18446744073709551616 := by omega) : Number :=
  .int n ⟨by omega,by omega⟩

-- The digits of each part, last digit first. A part that is not written has none.
structure Numeral where
  negative : Bool := false
  whole : List Nat := []
  fraction : List Nat := []
  exponentNegative : Bool := false
  exponent : List Nat := []
  fractional : Bool := false
deriving DecidableEq

namespace Numeral

def maxSignificand : Nat := 18446744073709551615

-- The digits that are kept, and the power of ten that makes up for the others. Once a digit does not fit, `full`
-- drops it and all that follow.
structure Reading where
  significand : Nat := 0
  scale : Int := 0
  full : Bool := false

def Reading.digit (step : Int) (dropped : Int) (r : Reading) (d : Nat) : Reading :=
  let next := r.significand * 10 + d
  if r.full ∨ maxSignificand < next then { r with scale := r.scale + dropped,full := true }
  else { r with significand := next,scale := r.scale + step }

def readWhole (digits : List Nat) : Reading := digits.reverse.foldl (Reading.digit 0 1) {}

def readFraction (r : Reading) (digits : List Nat) : Reading :=
  digits.reverse.foldl (Reading.digit (-1) 0) { r with full := false }

def exponentValue (n : Numeral) : Int :=
  let e : Nat := n.exponent.reverse.foldl (fun e d => e * 10 + d) 0
  if n.exponentNegative then -(e : Int) else (e : Int)

-- Each step is rounded: the significand first, then its product with a power of ten or its quotient by one. Powers
-- beyond `10 ^ 308` divide in two steps, after which nothing is left; as factors they are out of range.
def magnitude? (significand : Nat) (scale : Int) : Option Nat :=
  let m := Double.nearest significand 1
  if m = 0 then some 0
  else if 308 < scale then none
  else if 0 ≤ scale then
    let product := Double.mul m (Double.powerOfTen scale.toNat)
    if product < Double.bound then some product else none
  else if -308 ≤ scale then some (Double.div m (Double.powerOfTen (-scale).toNat))
  else if -616 ≤ scale then
    some (Double.div (Double.div m (Double.powerOfTen 308)) (Double.powerOfTen (-scale - 308).toNat))
  else some 0

def real? (n : Numeral) : Option Double := do
  let r := readFraction (readWhole n.whole) n.fraction
  let m ← magnitude? r.significand (r.scale + n.exponentValue)
  Double.ofMagnitude? n.negative m

-- An integer if it is written as one and fits, and is not a negative zero; otherwise a double.
def value? (n : Numeral) : Option Number :=
  let r := readWhole n.whole
  if n.fractional ∨ r.full then n.real?.map .real
  else if n.negative then
    if r.significand = 0 then some (.real (Double.zero true))
    else match Number.ofInt? (-(r.significand : Int)) with
      | some i => some i
      | none => (Double.ofRatio? true r.significand 1).map .real
  else Number.ofInt? r.significand

end Numeral

-- A real is written positionally when its leading digit stands at most sixteen places before the point or at most
-- five behind it. A positional real always has a point, and an exponent always has a sign.
def realText (x : Double) : String :=
  let sign := if x.negative then "-" else ""
  if x.magnitude = 0 then sign ++ "0.0"
  else
    let s := Double.shortest x.magnitude
    let digits := Nat.toDigits 10 s.digits
    let zeros (n : Int) : List Char := List.replicate n.toNat '0'
    let point : Int := digits.length + s.exponent
    let body : List Char :=
      if 0 ≤ s.exponent ∧ point ≤ 16 then digits ++ zeros s.exponent ++ ['.','0']
      else if 0 < point ∧ point ≤ 16 then digits.take point.toNat ++ '.' :: digits.drop point.toNat
      else if -5 < point ∧ point ≤ 0 then '0' :: '.' :: zeros (-point) ++ digits
      else
        let exponent := 'e' :: (if point ≤ 0 then '-' else '+') :: Nat.toDigits 10 (point - 1).natAbs
        match digits with
        | [d] => d :: exponent
        | d :: rest => d :: '.' :: rest ++ exponent
        | [] => exponent
    sign ++ String.ofList body

def Number.text : Number → String
  | .int i _ => toString i
  | .real x => realText x

end ModelCatalog.Json
