import ModelCatalog.Decimal.Double

-- The fewest digits for which a neighbour of the value on that decimal grid rounds to the double, and of two such
-- neighbours the nearer one.

namespace ModelCatalog.Decimal

structure Scaled where
  digits : Nat
  exponent : Int
deriving DecidableEq

namespace Scaled

def ratio (s : Scaled) : Nat × Nat :=
  if 0 ≤ s.exponent then (s.digits * Nat.pow 10 s.exponent.toNat,1)
  else (s.digits,Nat.pow 10 (-s.exponent).toNat)

def readsAs (s : Scaled) (magnitude : Nat) : Bool :=
  Double.nearest s.ratio.1 s.ratio.2 = magnitude

end Scaled

def digitCount (n : Nat) : Nat := (Nat.toDigits 10 n).length

namespace Double

-- The least `p` with `num / den < 10 ^ p`, for a positive quotient.
def position (num den : Nat) : Int :=
  if den ≤ num then digitCount (num / den) else 1 - (digitCount ((den - 1) / num) : Int)

def hit? (magnitude n : Nat) : Option Scaled :=
  let (num,den) := ratio magnitude
  let exponent := position num den - n
  let (a,b) :=
    if 0 ≤ exponent then (num,den * Nat.pow 10 exponent.toNat)
    else (num * Nat.pow 10 (-exponent).toNat,den)
  let below : Scaled := ⟨a / b,exponent⟩
  -- the point above the last one of `n` digits is a power of ten, which has `n` digits one place up
  let above : Scaled :=
    if a / b + 1 = Nat.pow 10 n then ⟨Nat.pow 10 (n - 1),exponent + 1⟩ else ⟨a / b + 1,exponent⟩
  let rest := 2 * (a % b)
  let nearer := if rest < b ∨ (rest = b ∧ below.digits % 2 = 0) then [below,above] else [above,below]
  nearer.find? (·.readsAs magnitude)

-- Seventeen digits always suffice.
def shortest (magnitude : Nat) : Scaled :=
  ((List.range 17).findSome? (fun n => hit? magnitude (n + 1))).getD ⟨0,0⟩

end Double
end ModelCatalog.Decimal
