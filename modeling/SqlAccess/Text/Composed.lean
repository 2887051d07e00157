import SqlAccess.Text.CompositionTable
import SqlAccess.Text.Mark

/-!
# One spelling for characters with marks

A letter with marks can be spelled as one character, or as the letter with its marks behind it in
one order or another.  `composed` gives all of them one spelling, in three steps: characters are
taken apart, the marks behind a character are put into the order of their classes, and then every
mark that has a character of its own together with what it stands on is put together with it.

The syllables of Hangul are put together by their numbers; a syllable need not be taken apart for
that.
-/

namespace SqlAccess.Text

/-! ## Taking apart -/

/-- The character and the mark that `whole` stands for, by the rows of the table. -/
def partsInRows? (whole : Char) : Option (Char × Char) :=
  compositionRows.findSome? fun (mark, bases, wholes) =>
    ((bases.toList.zip wholes.toList).find? (·.2 == whole)).map fun (base, _) =>
      (base, Char.ofNat mark)

/-- The character and the mark that `whole` stands for, by the triples of the table. -/
def partsInTriples? (whole : Char) : Option (Char × Char) :=
  (compositionTriples.find? (·.2.2 == whole.toNat)).map fun (base, mark, _) =>
    (Char.ofNat base, Char.ofNat mark)

/-- The character and the mark that `whole` stands for. -/
def parts? (whole : Char) : Option (Char × Char) :=
  if whole.toNat < 128 then none else partsInRows? whole <|> partsInTriples? whole

/-- Takes a character apart in at most `most` steps. -/
def decomposedBy : (most : Nat) → Char → List Char
  | 0, c => [c]
  | most + 1, c =>
    match parts? c with
    | some (base, mark) => decomposedBy most base ++ [mark]
    | none => [c]

/-- Takes a character apart; none stands for more than three marks. -/
def decomposed (c : Char) : List Char :=
  decomposedBy 3 c

/-! ## The order of marks -/

/-- Puts a character in front of an ordered text; a mark goes behind the marks of lower classes. -/
def insertMark (c : Char) : List Char → List Char
  | [] => [c]
  | d :: text =>
    if 0 < markClass d ∧ markClass d < markClass c then d :: insertMark c text else c :: d :: text

/-- The text with the marks behind every character in the order of their classes. -/
def marksInOrder (text : List Char) : List Char :=
  text.foldr insertMark []

/-! ## Putting together -/

/-- The Hangul syllable of a consonant and a vowel, or of such a syllable and a final consonant. -/
def syllable? (a b : Char) : Option Char :=
  if 0x1100 ≤ a.toNat ∧ a.toNat < 0x1113 ∧ 0x1161 ≤ b.toNat ∧ b.toNat < 0x1176 then
    some (Char.ofNat (0xAC00 + ((a.toNat - 0x1100) * 21 + (b.toNat - 0x1161)) * 28))
  else if 0xAC00 ≤ a.toNat ∧ a.toNat < 0xD7A4 ∧ (a.toNat - 0xAC00) % 28 = 0 ∧
      0x11A8 ≤ b.toNat ∧ b.toNat < 0x11C3 then
    some (Char.ofNat (a.toNat + (b.toNat - 0x11A7)))
  else none

/-- The character that stands for a character with a mark. -/
def whole? (base mark : Char) : Option Char :=
  if mark.toNat < 768 then none
  else
    (compositionRows.findSome? fun (m, bases, wholes) =>
      if m = mark.toNat then
        ((bases.toList.zip wholes.toList).find? (·.1 == base)).map (·.2)
      else none) <|>
    ((compositionTriples.find? fun (b, m, _) => b == base.toNat && m == mark.toNat).map
      fun (_, _, whole) => Char.ofNat whole) <|>
    syllable? base mark

/-- Puts marks together with the character `base` in front of them.  The marks in `kept` stand
between and have no character of their own with it; the highest of their classes is `highest`, and
a mark of the same class does not go past them. -/
def composeFrom (base : Char) (kept : List Char) (highest : Nat) : List Char → List Char
  | [] => base :: kept
  | c :: text =>
    let k := markClass c
    let reaches := kept.isEmpty || highest < k
    match if reaches then whole? base c else none with
    | some whole => composeFrom whole kept highest text
    | none =>
      if k = 0 then base :: kept ++ composeFrom c [] 0 text
      else composeFrom base (kept ++ [c]) k text

/-- The text in the one spelling that all of its spellings share. -/
def composed (text : List Char) : List Char :=
  match marksInOrder (text.flatMap decomposed) with
  | [] => []
  | c :: rest => composeFrom c [] 0 rest

end SqlAccess.Text
