import ModelCatalog.Text.Canonical.Table

namespace ModelCatalog.Text
namespace Canonical

def markClass (c : Char) : Nat :=
  match classes.find? (fun (first,last,_) => first ≤ c.toNat && c.toNat ≤ last) with
  | some (_,_,n) => n
  | none => 0

-- Syllables of Hangul are numbered by their first letter, their vowel and their last letter.

def firstLetter : Nat := 0x1100
def firstVowel : Nat := 0x1161
def noEnding : Nat := 0x11A7
def firstSyllable : Nat := 0xAC00

def letters? (c : Char) : Option (List Char) :=
  let n := c.toNat - firstSyllable
  if firstSyllable ≤ c.toNat ∧ n < 19 * 21 * 28 then
    let ending := if n % 28 = 0 then [] else [Char.ofNat (noEnding + n % 28)]
    some (Char.ofNat (firstLetter + n / 588) :: Char.ofNat (firstVowel + n / 28 % 21) :: ending)
  else none

def syllable? (a b : Char) : Option Char :=
  let letter := a.toNat - firstLetter
  let vowel := b.toNat - firstVowel
  let syllable := a.toNat - firstSyllable
  let ending := b.toNat - noEnding
  if firstLetter ≤ a.toNat ∧ letter < 19 ∧ firstVowel ≤ b.toNat ∧ vowel < 21 then
    some (Char.ofNat (firstSyllable + (letter * 21 + vowel) * 28))
  else if firstSyllable ≤ a.toNat ∧ syllable < 19 * 21 * 28 ∧ syllable % 28 = 0
      ∧ noEnding < b.toNat ∧ ending < 28 then
    some (Char.ofNat (a.toNat + ending))
  else none

def compose? (a b : Char) : Option Char :=
  match syllable? a b with
  | some c => some c
  | none =>
    (composites.find? (fun (_,x,y) => x = a.toNat && y = b.toNat)).map fun (c,_,_) => Char.ofNat c

def maxDepth : Nat := 3

def decompose : Nat → Char → List Char
  | 0,c => [c]
  | depth + 1,c => match letters? c with
    | some letters => letters
    | none => match composites.find? (fun (n,_,_) => n = c.toNat) with
      | some (_,a,b) => decompose depth (Char.ofNat a) ++ [Char.ofNat b]
      | none => [c]

def arrange (chars : List Char) : List Char :=
  let (done,marks) := chars.foldl (fun (done,marks) c =>
    if markClass c = 0 then (done ++ sorted marks ++ [c],[]) else (done,marks ++ [c])) ([],[])
  done ++ sorted marks
where
  sorted (marks : List Char) : List Char := marks.mergeSort fun a b => markClass a ≤ markClass b

-- A mark reaches the character if all marks between, which stay in `kept`, have lower classes.
def composeFrom (c : Char) (kept : List Char) (classBefore : Nat) : List Char → List Char
  | [] => c :: kept
  | d :: rest =>
    let n := markClass d
    match if kept = [] ∨ classBefore < n then compose? c d else none with
    | some composed => composeFrom composed kept classBefore rest
    | none =>
      if n = 0 then c :: kept ++ composeFrom d [] 0 rest
      else composeFrom c (kept ++ [d]) n rest

def ofList (chars : List Char) : List Char :=
  match arrange (chars.flatMap (decompose maxDepth)) with
  | [] => []
  | c :: rest => composeFrom c [] 0 rest

end Canonical
end ModelCatalog.Text
