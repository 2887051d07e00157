import SqlAccess.Text.MarkRanges
import SqlAccess.Text.Quoted

/-!
# Marks

A mark is a character that belongs to the one before it.  Some marks are drawn onto it, others take
up room beside it.
-/

namespace SqlAccess.Text

/-- A mark with room of its own. -/
def isSpacingMark (c : Char) : Bool :=
  inRanges spacingMarkRanges c.toNat

/-- A mark that is drawn onto the character before it. -/
def isNonspacingMark (c : Char) : Bool :=
  isGraphemeExtend c && isPrintable c && !isSpacingMark c

/-- A mark of either kind. -/
def isMark (c : Char) : Bool :=
  isNonspacingMark c || isSpacingMark c

/-- The class of a mark: marks of different classes stand in different places on their character.
All other characters have the class zero. -/
def markClass (c : Char) : Nat :=
  if c.toNat < 768 then 0
  else
    match markClassRows.find? fun (first, last, _) => first ≤ c.toNat && c.toNat ≤ last with
    | some (_, _, k) => k
    | none => 0

end SqlAccess.Text
