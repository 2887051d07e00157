import SqlAccess.Text.Ascii
import SqlAccess.Text.Quoted
import SqlAccess.Url.Domain.MappingTable

/-!
# The characters of a name

A name may be written with capital letters, wide letters, ligatures and the like: every character
stands for a text, most of them for their own lower case, and some for none at all.  What no name
may hold are the characters that have a meaning in an address, those without a printed form, and a
few more.
-/

namespace SqlAccess.Url

/-- A character that no host may hold. -/
def isForbiddenInHost (c : Char) : Bool :=
  ['\x00', '\t', '\n', '\r', ' ', '#', '/', ':', '<', '>', '?', '@', '[', '\\', ']', '^',
    '|'].contains c

/-- Closed intervals of characters that do not count in a name. -/
def ignoredRanges : List (Nat × Nat) := [
  (0x00AD, 0x00AD), (0x034F, 0x034F), (0x115F, 0x1160), (0x17B4, 0x17B5),
  (0x180B, 0x180F), (0x200B, 0x200B), (0x2060, 0x2064), (0x206A, 0x206F),
  (0x3164, 0x3164), (0xFE00, 0xFE0F), (0xFEFF, 0xFEFF), (0xFFA0, 0xFFA0),
  (0x1BCA0, 0x1BCA3), (0x1D173, 0x1D17A), (0xE0100, 0xE01EF)]

/-- A character that does not count in a name. -/
def isIgnored (c : Char) : Bool :=
  Text.inRanges ignoredRanges c.toNat

/-- Closed intervals of printable characters that no name may hold. -/
def unusableRanges : List (Nat × Nat) := [
  (0x00A8, 0x00A8), (0x00AF, 0x00AF), (0x00B4, 0x00B4), (0x00B8, 0x00B8),
  (0x02D8, 0x02DD), (0x037A, 0x037A), (0x0384, 0x0385), (0x1FBD, 0x1FBD),
  (0x1FBF, 0x1FC1), (0x1FCD, 0x1FCF), (0x1FDD, 0x1FDF), (0x1FED, 0x1FEE),
  (0x1FFD, 0x1FFE), (0x2017, 0x2017), (0x2024, 0x2026), (0x203E, 0x203E),
  (0x2488, 0x249B), (0x2FF0, 0x2FFF), (0x309B, 0x309C), (0x31EF, 0x31EF),
  (0x33C2, 0x33C2), (0x33C7, 0x33C7), (0x33D8, 0x33D8), (0xFC5E, 0xFC63),
  (0xFDFA, 0xFDFB), (0xFE12, 0xFE12), (0xFE19, 0xFE19), (0xFE30, 0xFE30),
  (0xFE49, 0xFE4C), (0xFE52, 0xFE52), (0xFE70, 0xFE70), (0xFE72, 0xFE72),
  (0xFE74, 0xFE74), (0xFE76, 0xFE76), (0xFE78, 0xFE78), (0xFE7A, 0xFE7A),
  (0xFE7C, 0xFE7C), (0xFE7E, 0xFE7E), (0xFFE3, 0xFFE3), (0xFFFC, 0xFFFD),
  (0x1F100, 0x1F100)]

/-- One of the two characters that ask for letters to be joined or parted.  They have no printed
form, and still a name may hold them where they matter. -/
def isJoiner (c : Char) : Bool :=
  c == '\u200c' || c == '\u200d'

/-- A character that no name may hold. -/
def isForbiddenInDomain (c : Char) : Bool :=
  isForbiddenInHost c || c == '%' ||
    (!Text.isPrintable c && !isJoiner c) || Text.inRanges unusableRanges c.toNat

/-- The text that a row of the mapping gives to a code point. -/
def mappedText? (n : Nat) : Option (List Char) := do
  let (first, texts) ← (mappingRows.takeWhile (·.1 ≤ n)).getLast?
  (Text.pieces ' ' texts.toList)[n - first]?

/-- The text that a character stands for. -/
def standsFor (c : Char) : List Char :=
  if c.toNat < 128 then [c.toLower]
  else if isIgnored c then []
  else (mappedText? c.toNat).getD (Text.lowerOf c)

/-- A character that a name holds when it is written out: it stands for itself. -/
def isPlain (c : Char) : Bool :=
  standsFor c == [c] && !isForbiddenInDomain c

end SqlAccess.Url
