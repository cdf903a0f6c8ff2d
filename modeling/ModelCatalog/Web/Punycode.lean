-- The characters beyond ASCII are given in ascending order, each by the number of places and values skipped since the
-- one before, written in digits of a base that adapts.

namespace ModelCatalog.Web.Punycode

def digit (n : Nat) : Char := Char.ofNat (if n < 26 then 97 + n else 22 + n)

def digit? (c : Char) : Option Nat :=
  if 'a' ≤ c ∧ c ≤ 'z' then some (c.toNat - 97)
  else if 'A' ≤ c ∧ c ≤ 'Z' then some (c.toNat - 65)
  else if '0' ≤ c ∧ c ≤ '9' then some (c.toNat - 22)
  else none

def threshold (place bias : Nat) : Nat := min 26 (max 1 (36 * place - bias))

def settle (delta : Nat) : Nat × Nat :=
  if delta ≤ 455 then (0,delta)
  else
    let (count,rest) := settle (delta / 35)
    (count + 1,rest)
termination_by delta
decreasing_by omega

def adapt (delta points : Nat) (first : Bool) : Nat :=
  let delta := if first then delta / 700 else delta / 2
  let (count,rest) := settle (delta + delta / points)
  36 * count + 36 * rest / (rest + 38)

def digits (bias place n : Nat) : List Char :=
  let t := threshold place bias
  if n < t then [digit n]
  else digit (t + (n - t) % (36 - t)) :: digits bias (place + 1) ((n - t) / (36 - t))
termination_by n
decreasing_by
  have low : 1 ≤ threshold place bias := by simp only [threshold]; omega
  have : (n - threshold place bias) / (36 - threshold place bias) ≤ n - threshold place bias :=
    Nat.div_le_self _ _
  omega

structure Encoding where
  written : List Char
  delta : Nat
  bias : Nat
  points : Nat
  first : Bool

def Encoding.visit (value : Nat) (e : Encoding) (c : Char) : Encoding :=
  if c.toNat < value then { e with delta := e.delta + 1 }
  else if c.toNat = value then
    { written := e.written ++ digits e.bias 1 e.delta,delta := 0
      bias := adapt e.delta (e.points + 1) e.first,points := e.points + 1,first := false }
  else e

def values (label : List Char) : List Nat :=
  (((label.map Char.toNat).filter (0x80 ≤ ·)).mergeSort (· ≤ ·)).eraseDups

def encode (label : List Char) : List Char :=
  let basic := label.filter (·.toNat < 0x80)
  let start : Encoding := ⟨if basic.isEmpty then [] else basic ++ ['-'],0,72,basic.length,true⟩
  let step (state : Nat × Encoding) (value : Nat) : Nat × Encoding :=
    let e := { state.2 with delta := state.2.delta + (value - state.1) * (state.2.points + 1) }
    let e := label.foldl (Encoding.visit value) e
    (value + 1,{ e with delta := e.delta + 1 })
  ((values label).foldl step (0x80,start)).2.written

structure Decoding where
  label : List Char
  value : Nat := 0x80
  index : Nat := 0
  bias : Nat := 72
  first : Bool := true
  place : Nat := 1
  weight : Nat := 1
  sum : Nat := 0

-- The last digit of a number puts a character into the label.
def Decoding.visit (d : Decoding) (c : Char) : Option Decoding := do
  let n ← digit? c
  let sum := d.sum + n * d.weight
  let t := threshold d.place d.bias
  if t ≤ n then
    return { d with sum,place := d.place + 1,weight := d.weight * (36 - t) }
  else
    let points := d.label.length + 1
    let index := d.index + sum
    let value := d.value + index / points
    if h : value.isValidChar then
      let (before,behind) := d.label.splitAt (index % points)
      return {
        label := before ++ Char.ofNatAux value h :: behind,value,index := index % points + 1
        bias := adapt sum points d.first,first := false }
    else none

def decode? (encoded : List Char) : Option (List Char) := do
  let tail := (encoded.reverse.takeWhile (· ≠ '-')).reverse
  let basic := encoded.take (encoded.length - tail.length - 1)
  let d ← tail.foldlM Decoding.visit { label := basic }
  if d.place = 1 then some d.label else none

end ModelCatalog.Web.Punycode
