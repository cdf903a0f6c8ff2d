import ModelCatalog.Text.Blank
import ModelCatalog.Text.Width.Table

-- A character takes no column, one or two; but an emoji that is put together of several characters takes two, and so
-- does a character that a selector turns into an emoji. So a character is looked at together with what stands behind
-- it, and a line is read from its end.

namespace ModelCatalog.Text
namespace Width

inductive Behind where
  | other
  | emoji
  | joined
  | skinTone
  -- One half of a flag, the other half not being behind it.
  | halfFlag
  | flag
  | alef
deriving DecidableEq

inductive Style where
  | plain
  | text
  | picture
deriving DecidableEq

def isPicture (n : Nat) : Bool := inRanges pictureRanges n
def isSkinTone (n : Nat) : Bool := 0x1F3FB ≤ n && n ≤ 0x1F3FF
def isHalfFlag (n : Nat) : Bool := 0x1F1E6 ≤ n && n ≤ 0x1F1FF

def isEnclosedIdeograph (n : Nat) : Bool := 0x1F200 ≤ n && n ≤ 0x1F2FF

def ofChar (n : Nat) : Nat :=
  if n ≤ 0xA0 then 1
  else if inRanges zeroRanges n then 0
  else if n = 0x17D8 then 3
  else if inRanges wideRanges n then 2
  else 1

def alefRanges : List (Nat × Nat) := [
  (0x622,0x623),(0x625,0x625),(0x627,0x627),(0x671,0x673),(0x675,0x675),
  (0x773,0x774),(0x870,0x882)]

def lamRanges : List (Nat × Nat) := [
  (0x644,0x644),(0x6B5,0x6B8),(0x76A,0x76A),(0x8A6,0x8A6),(0x8C7,0x8C7)]

def asBehind (n : Nat) (behind : Behind) : Behind :=
  if isPicture n then .emoji
  else if isSkinTone n then .skinTone
  else if isHalfFlag n then if behind = .halfFlag ∨ behind = .flag then .flag else .halfFlag
  else if inRanges alefRanges n then .alef
  else .other

def step (c : Char) (behind : Behind) (style : Style) : Nat × Behind × Style :=
  let n := c.toNat
  if style = .picture ∧ (inRanges textualRanges n ∨ isPicture n) then
    (if behind = .joined then 0 else 2,.emoji,.plain)
  else if style = .text ∧ isPicture n ∧ !isEnclosedIdeograph n then (1,.other,.plain)
  else if n ≤ 0xA0 then (1,.other,.plain)
  else if n = 0xFE0F then (0,if behind = .joined then .joined else .other,.picture)
  else if n = 0xFE0E then (0,.other,.text)
  else if n = 0x200D then
    (0,if behind = .emoji ∨ behind = .skinTone ∨ behind = .flag then .joined else .other,.plain)
  else if behind = .alef ∧ inRanges lamRanges n then (0,.other,.plain)
  else if behind = .alef ∧ ofChar n = 0 then (0,.alef,.plain)
  else if behind = .skinTone ∧ inRanges tonedRanges n then (0,.emoji,.plain)
  else if behind = .joined ∧ (isPicture n ∨ isSkinTone n) then (0,asBehind n behind,.plain)
  else (ofChar n,asBehind n behind,.plain)

end Width

def width (line : String) : Nat :=
  (line.toList.foldr (fun c (sum,behind,style) =>
    let (columns,behind,style) := Width.step c behind style
    (sum + columns,behind,style)) (0,Width.Behind.other,Width.Style.plain)).1

end ModelCatalog.Text
