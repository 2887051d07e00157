/-!
# ASCII: case, blanks, digits, and what matches without regard to case

Everything an SQL keyword needs is ASCII: its letters compare without regard to case, and the
blanks between words are the five that a statement may hold.  The functions here change or test
ASCII characters only and leave every other character as it is, so they are right for arbitrary
text and not only for ASCII text.

* `asciiLower` — a text in lower case, letter by letter.
* `equalsIgnoringCase` — two texts that are equal after `asciiLower`.
* `pieces` — the parts of a text between marks.
* `isAsciiBlank` — space, tab, line feed, form feed and carriage return.
* `hexDigit`, `hexValue?`, `hexByte` — hexadecimal digits, written in lower case and read in
  either case.
-/

namespace SqlAccess.Text

/-! ## Case -/

/-- The text with its ASCII letters in lower case. -/
def asciiLower (s : String) : String :=
  String.ofList (s.toList.map Char.toLower)

/-- Two characters that differ at most in ASCII case. -/
def sameLetter (a b : Char) : Bool :=
  a.toLower == b.toLower

/-- Two texts that differ at most in ASCII case. -/
def equalsIgnoringCase (s t : String) : Bool :=
  s.toList.map Char.toLower == t.toList.map Char.toLower

/-- What follows `word` at the start of a text, if the text starts with it in any ASCII case. -/
def dropWord? : (word text : List Char) → Option (List Char)
  | [], text => some text
  | _ :: _, [] => none
  | w :: word, c :: text => if sameLetter w c then dropWord? word text else none

/-- What follows `lead` at the start of a text, if the text starts with exactly it. -/
def dropLead? : (lead text : List Char) → Option (List Char)
  | [], text => some text
  | _ :: _, [] => none
  | l :: lead, c :: text => if l = c then dropLead? lead text else none

/-- Splits a text at the first place where `mark` stands: what is before it, and what is after. -/
def splitAtMark? (mark : List Char) : List Char → Option (List Char × List Char)
  | [] => (dropLead? mark []).map ([], ·)
  | c :: text =>
    match dropLead? mark (c :: text) with
    | some rest => some ([], rest)
    | none => (splitAtMark? mark text).map fun (before, rest) => (c :: before, rest)

/-- Whether `mark` stands anywhere in the text. -/
def holdsMark (mark text : List Char) : Bool :=
  (splitAtMark? mark text).isSome

/-- The pieces of a text between marks, `piece` being what has been read of the first. -/
def piecesFrom (mark : Char) (piece : List Char) : List Char → List (List Char)
  | [] => [piece]
  | c :: text =>
    if c = mark then piece :: piecesFrom mark [] text else piecesFrom mark (piece ++ [c]) text

/-- The pieces of a text between marks; there is always one more piece than there are marks. -/
def pieces (mark : Char) (text : List Char) : List (List Char) :=
  piecesFrom mark [] text

/-! ## Blanks -/

/-- The five ASCII blanks: space, tab, line feed, form feed, carriage return. -/
def isAsciiBlank (c : Char) : Bool :=
  c == ' ' || c == '\t' || c == '\n' || c == '\x0c' || c == '\r'

/-! ## Hexadecimal digits -/

/-- The lower-case hexadecimal digit of `n`, taken modulo sixteen. -/
def hexDigit (n : Nat) : Char :=
  let d := n % 16
  if d < 10 then Char.ofNat (48 + d) else Char.ofNat (87 + d)

/-- The value of a hexadecimal digit of either case. -/
def hexValue? (c : Char) : Option Nat :=
  if c.isDigit then some (c.toNat - 48)
  else if 'a' ≤ c ∧ c ≤ 'f' then some (c.toNat - 87)
  else if 'A' ≤ c ∧ c ≤ 'F' then some (c.toNat - 55)
  else none

/-- A hexadecimal digit of either case. -/
def isHexDigit (c : Char) : Bool :=
  (hexValue? c).isSome

/-- The two lower-case hexadecimal digits of a byte. -/
def hexByte (b : UInt8) : List Char :=
  [hexDigit (b.toNat / 16), hexDigit b.toNat]

/-- The hexadecimal digits of `n`, most significant first and without leading zeros; at least one
digit is written. -/
def hexNat (n : Nat) : List Char :=
  Nat.toDigits 16 n

/-! ## Decimal digits -/

/-- The value of a decimal digit. -/
def digitValue (c : Char) : Nat :=
  c.toNat - 48

/-- The number `n` with leading zeros up to `width` digits. -/
def paddedNat (width n : Nat) : List Char :=
  let digits := Nat.toDigits 10 n
  List.replicate (width - digits.length) '0' ++ digits

/-- The number with its sign in front when it is negative. -/
def intText (n : Int) : List Char :=
  if n < 0 then '-' :: Nat.toDigits 10 n.natAbs else Nat.toDigits 10 n.natAbs

end SqlAccess.Text
