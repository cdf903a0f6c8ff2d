-- A number is a sign and a magnitude, the place of its absolute value among the non-negative doubles in ascending
-- order, so magnitudes compare as the values do.

namespace ModelCatalog.Decimal

def Double.bound : Nat := 0x7FF0000000000000

structure Double where
  negative : Bool
  magnitude : Nat
  finite : magnitude < Double.bound
deriving DecidableEq

namespace Double

instance : Inhabited Double := ⟨⟨false,0,by decide⟩⟩

def zero (negative : Bool) : Double := ⟨negative,0,by decide⟩

def leadingOne : Nat := 0x10000000000000

-- The absolute value is `significand * 2 ^ (shift - 1074)`.
def significand (magnitude : Nat) : Nat :=
  if magnitude < leadingOne then magnitude else magnitude % leadingOne + leadingOne

def shift (magnitude : Nat) : Nat := magnitude / leadingOne - 1

def ratio (magnitude : Nat) : Nat × Nat :=
  let e := shift magnitude
  if e < 1074 then (significand magnitude,Nat.pow 2 (1074 - e))
  else (significand magnitude * Nat.pow 2 (e - 1074),1)

-- A half goes to the even integer.
def roundDiv (num den : Nat) : Nat :=
  let q := num / den
  let r := num % den
  if 2 * r < den then q else if den < 2 * r then q + 1 else q + q % 2

-- The magnitude nearest to a quotient, a half going to the even one; `bound` or more where it is too large for a
-- double. Where the significand has its leading one, that adds one to the exponent above it.
def nearest (num den : Nat) : Nat :=
  if num = 0 then 0
  else
    -- the exponent `e` at which the quotient has 53 bits, and not below the smallest one
    let wide := Nat.log2 num + 1074
    let guess := wide - Nat.log2 den - 52
    let units (e : Nat) : Nat × Nat :=
      if e < 1074 then (num * Nat.pow 2 (1074 - e),den) else (num,den * Nat.pow 2 (e - 1074))
    let low := guess - 1
    let (n,d) := units low
    let e := if n / d < 2 * leadingOne then low else guess
    let (n,d) := units e
    e * leadingOne + roundDiv n d

def ofMagnitude? (negative : Bool) (magnitude : Nat) : Option Double :=
  if h : magnitude < bound then some ⟨negative,magnitude,h⟩ else none

def ofRatio? (negative : Bool) (num den : Nat) : Option Double :=
  ofMagnitude? negative (nearest num den)

def ofInt? (i : Int) : Option Double := ofRatio? (i < 0) i.natAbs 1

def mul (a b : Nat) : Nat :=
  let (n,d) := ratio a
  let (m,c) := ratio b
  nearest (n * m) (d * c)

def div (a b : Nat) : Nat :=
  let (n,d) := ratio a
  let (m,c) := ratio b
  nearest (n * c) (d * m)

def powerOfTen (k : Nat) : Nat := nearest (Nat.pow 10 k) 1

end Double
end ModelCatalog.Decimal
