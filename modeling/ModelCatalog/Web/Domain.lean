import ModelCatalog.Text.Blank
import ModelCatalog.Text.Canonical
import ModelCatalog.Web.Domain.Script
import ModelCatalog.Web.Domain.Table
import ModelCatalog.Web.Punycode

-- Characters are first replaced by those that they stand for; a label that then has characters beyond ASCII is
-- encoded. Labels have to pass checks of their marks, their joiners and their directions of writing, and so do labels
-- that are encoded already.

namespace ModelCatalog.Web

def splitAt (sep : Char) : List Char → List (List Char)
  | [] => [[]]
  | c :: rest =>
    if c = sep then [] :: splitAt sep rest
    else match splitAt sep rest with
      | part :: parts => (c :: part) :: parts
      | [] => [[c]]

namespace Domain
open Text

def forbidden (c : Char) : Bool :=
  c.toNat ≤ 0x20 || c.toNat = 0x7F
    || ['%','#','/',':','<','>','?','@','[','\\',']','^','|'].contains c

def isRefused (c : Char) : Bool := forbidden c || inRanges refusedRanges c.toNat

def mapChar (c : Char) : List Char :=
  let n := c.toNat
  if n < 0x80 then [c.toLower]
  else if inRanges ignoredRanges n then []
  else match replacedRuns.find? (fun (first,last,step,_) =>
      first ≤ n && n ≤ last && (n - first) % step = 0) with
    | some (first,_,_,target) => [Char.ofNat (target + (n - first))]
    | none => match expanded.lookup n with
      | some chars => chars.map Char.ofNat
      | none => [c]

def mapped (chars : List Char) : List Char := Canonical.ofList (chars.flatMap mapChar)

def isNonspacing (c : Char) : Bool := inRanges nonspacingRanges c.toNat
def isMark (c : Char) : Bool := isNonspacing c || inRanges spacingRanges c.toNat

def isVirama (c : Char) : Bool := Canonical.markClass c = 9

def isTransparent (c : Char) : Bool := isNonspacing c || c.toNat = 0x1E94B

def joins (ranges : List (Nat × Nat)) (chars : List Char) : Bool :=
  match chars.find? (fun c => !isTransparent c) with
  | some c => inRanges dualJoiningRanges c.toNat || inRanges ranges c.toNat
  | none => false

-- Joiners may stand behind a sign that kills a vowel, and one that keeps letters apart also between letters that
-- would join. What stands before is read backwards.
def joinersFit (before : List Char) : List Char → Bool
  | [] => true
  | c :: rest =>
    (if c.toNat = 0x200D then before.head?.any isVirama
      else if c.toNat = 0x200C then
        before.head?.any isVirama || (joins leftJoiningRanges before && joins rightJoiningRanges rest)
      else true) && joinersFit (c :: before) rest

inductive Direction where
  | leftToRight
  | rightToLeft
  | arabicNumber
  | europeanNumber
  | neutral
  | nonspacing
deriving DecidableEq

-- Marks that take no room and yet are written like letters.
def letterMarks : List Nat := [0xCBF,0xCC6,0x11A07,0x11A08,0x11C3F]

def direction (c : Char) : Direction :=
  let n := c.toNat
  if inRanges rightToLeftRanges n then .rightToLeft
  else if inRanges arabicNumberRanges n then .arabicNumber
  else if inRanges europeanNumberRanges n then .europeanNumber
  else if inRanges neutralRanges n then .neutral
  else if isNonspacing c && !letterMarks.contains n then .nonspacing
  else .leftToRight

def isBidirectional (labels : List (List Char)) : Bool :=
  labels.any fun label => label.any fun c =>
    direction c = .rightToLeft || direction c = .arabicNumber

-- A label begins with a letter, whose direction it keeps, and it ends with a letter or a number.
def directionsFit (label : List Char) : Bool :=
  let all := label.map direction
  let last := (all.reverse.dropWhile (· = .nonspacing)).head?
  match all.head? with
  | none => true
  | some .leftToRight =>
    all.all (fun d => d ≠ .rightToLeft && d ≠ .arabicNumber)
      && (last = some .leftToRight || last = some .europeanNumber)
  | some .rightToLeft =>
    all.all (· ≠ .leftToRight)
      && (last = some .rightToLeft || last = some .europeanNumber || last = some .arabicNumber)
      && !(all.contains .europeanNumber && all.contains .arabicNumber)
  | some _ => false

def isEncoded (label : List Char) : Bool := ['x','n','-','-'].isPrefixOf label

-- A label that is encoded has to decode to one that is not ASCII and stands for itself.
def plain? (label : List Char) : Option (List Char) :=
  if isEncoded label then do
    let decoded ← Punycode.decode? (label.drop 4)
    if decoded.any (0x80 ≤ ·.toNat) && mapped decoded = decoded then some decoded else none
  else some label

def labelFits (label : List Char) : Bool :=
  !label.any isRefused && !label.head?.any isMark && joinersFit [] label

def encoded (label : List Char) : List Char :=
  if label.any (0x80 ≤ ·.toNat) then ['x','n','-','-'] ++ Punycode.encode label else label

def toAscii? (chars : List Char) : Option (List Char) := do
  let labels ← (splitAt '.' (mapped chars)).mapM plain?
  if labels.all labelFits && (!isBidirectional labels || labels.all directionsFit) then
    some (['.'].intercalate (labels.map encoded))
  else none

end Domain
end ModelCatalog.Web
