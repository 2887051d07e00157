import SqlAccess.Text.AlphanumericRanges
import SqlAccess.Text.LetterCaseRanges

/-!
# Letters, numbers and their case

Tests and case mapping for the whole character set.  ASCII is answered by core's own tests; beyond
ASCII the tables decide.  Lower-casing a letter gives one character, with one exception: `İ`
becomes an `i` and a combining dot, which is why `lowerOf` answers a list.
-/

namespace SqlAccess.Text

/-- Whether a code point lies in one of the closed intervals. -/
def inRanges (ranges : List (Nat × Nat)) (n : Nat) : Bool :=
  ranges.any fun (first, last) => first ≤ n && n ≤ last

/-- Whether a code point is met by one of the strided rows. -/
def inRows (rows : List (Nat × Nat × Nat)) (n : Nat) : Bool :=
  rows.any fun (first, last, stride) => first ≤ n && n ≤ last && (n - first) % stride == 0

/-- A letter or a number of any script. -/
def isAlphanumeric (c : Char) : Bool :=
  if c.toNat < 128 then c.isAlphanum else inRanges alphanumericRanges c.toNat

/-- An upper-case letter of any script. -/
def isUppercase (c : Char) : Bool :=
  if c.toNat < 128 then c.isUpper else inRows uppercaseRows c.toNat

/-- A lower-case letter of any script. -/
def isLowercase (c : Char) : Bool :=
  if c.toNat < 128 then c.isLower else inRows lowercaseRows c.toNat

/-- The offset from a letter to its lower case, zero for a character that has none. -/
def lowerOffset (n : Nat) : Int :=
  match lowerMappingRows.find? fun (first, last, stride, _) =>
      first ≤ n && n ≤ last && (n - first) % stride == 0 with
  | some (_, _, _, offset) => offset
  | none => 0

/-- The lower case of a character, in one or (for `İ`) two characters. -/
def lowerOf (c : Char) : List Char :=
  if c.toNat < 128 then [c.toLower]
  else if c = 'İ' then ['i', '\u0307']
  else [Char.ofNat (c.toNat + lowerOffset c.toNat).toNat]

end SqlAccess.Text
