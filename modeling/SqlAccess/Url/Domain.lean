import SqlAccess.Text.Composed
import SqlAccess.Url.Domain.Character
import SqlAccess.Url.Domain.Direction
import SqlAccess.Url.Domain.Joiner
import SqlAccess.Url.Domain.Punycode

/-!
# Names that can be resolved

A name is a list of labels with points between them.  It is read in three steps:

* every character is replaced by what it stands for, and characters with marks get one spelling;
* a label that starts with `xn--` is the Punycode of its real text, which must be one that the first
  step leaves alone;
* no label starts with a mark, joiners stand where they matter, and the labels of a name with
  letters read from right to left are steady.

`readDomain?` answers the name with its labels in their real text.
-/

namespace SqlAccess.Url

/-- The most characters of a label that is not ASCII. -/
def mostLabelChars : Nat := 1000

/-- The most characters of the Punycode of a label. -/
def mostPunycodeChars : Nat := 2000

/-- An ASCII character. -/
def isAscii (c : Char) : Bool := c.toNat < 128

/-- The real text of a label that is written as Punycode. -/
def decodedLabel? (code : List Char) : Option (List Char) := do
  if code.isEmpty || code.getLast? == some '-' then none
  else if !code.all isAscii || mostPunycodeChars < code.length then none
  else
    let label ← decodePunycode? code
    if label.all isPlain && !label.contains '.' && Text.composed label == label then some label
    else none

/-- Whether a label may be part of a name, the direction of its letters aside. -/
def isLabel (label : List Char) : Bool :=
  !(label.head?.any Text.isMark) && areJoinersPlaced [] label &&
    (label.all isAscii || label.length ≤ mostLabelChars)

/-- The real text of a label. -/
def readLabel? (label : List Char) : Option (List Char) := do
  let real ← match label with
    | 'x' :: 'n' :: '-' :: '-' :: code => decodedLabel? code
    | label => some label
  if isLabel real then some real else none

/-- Reads a name. -/
def readDomain? (text : List Char) : Option (List Char) := do
  let name := Text.composed (text.flatMap standsFor)
  if name.any isForbiddenInDomain then none
  else
    let labels ← (Text.pieces '.' name).mapM readLabel?
    if labels.any (·.any runsLeftward) && !labels.all isSteady then none
    else some (['.'].intercalate labels)

end SqlAccess.Url
