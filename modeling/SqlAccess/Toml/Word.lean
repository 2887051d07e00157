import SqlAccess.Calendar.Reading
import SqlAccess.Toml.Basic
import SqlAccess.Text.Ascii

/-!
# Words: truth values, numbers and moments

A value without quotes or brackets is a word.  Settings are truth values and whole numbers, in
base ten or behind one of the marks `0x`, `0o` and `0b`; between digits single underscores may
stand.

Words of other kinds are no settings, but they may stand where nothing reads them: numbers with a
point or a power of ten, infinity, dates, times, and digits that spell no number.  `isOther` knows
them; every other word makes its document malformed.
-/

namespace SqlAccess.Toml

/-- A character of a word. -/
def isWordChar (c : Char) : Bool :=
  !(['=', ',', '[', ']', '\x7b', '\x7d', ' ', '\t', '#', '\r', '\n'].contains c)

/-- Reads a word.  Words that one space divides count as one, because a time stands so behind its
date. -/
def readWord (text : List Char) : List Char × List Char :=
  let word := text.takeWhile isWordChar
  match text.dropWhile isWordChar with
  | ' ' :: c :: rest =>
    if isWordChar c then
      (word ++ ' ' :: (c :: rest).takeWhile isWordChar, (c :: rest).dropWhile isWordChar)
    else (word, ' ' :: c :: rest)
  | rest => (word, rest)

/-! ## Whole numbers -/

/-- The digits of a number, between which single underscores may stand. -/
def plainDigits? : List Char → Option (List Char)
  | [] => none
  | [c] => if c = '_' then none else some [c]
  | c :: '_' :: digits => if c = '_' then none else (plainDigits? digits).map (c :: ·)
  | c :: digits => if c = '_' then none else (plainDigits? digits).map (c :: ·)

/-- The number that digits of a base spell. -/
def numberInBase? (base : Nat) (digits : List Char) : Option Nat := do
  let digits ← plainDigits? digits
  if digits.all fun c => (Text.hexValue? c).any (· < base) then
    some (digits.foldl (fun n c => n * base + (Text.hexValue? c).getD 0) 0)
  else none

/-- A decimal number without leading zeros. -/
def decimal? : List Char → Option Nat
  | ['0'] => some 0
  | '0' :: _ => none
  | digits => numberInBase? 10 digits

/-- The whole number that a word spells. -/
def integer? : List Char → Option Int
  | '0' :: 'x' :: digits => (numberInBase? 16 digits).map Int.ofNat
  | '0' :: 'o' :: digits => (numberInBase? 8 digits).map Int.ofNat
  | '0' :: 'b' :: digits => (numberInBase? 2 digits).map Int.ofNat
  | '+' :: digits => (decimal? digits).map Int.ofNat
  | '-' :: digits => (decimal? digits).map fun n => -(n : Int)
  | digits => (decimal? digits).map Int.ofNat

/-! ## Numbers that are not whole -/

/-- The word without a sign in front. -/
def unsigned : List Char → List Char
  | '+' :: word => word
  | '-' :: word => word
  | word => word

/-- A digit or an underscore. -/
def isDigitMark (c : Char) : Bool := c.isDigit || c == '_'

/-- What follows the digits at the front of a text, if there are any. -/
def afterDigits? (text : List Char) : Option (List Char) :=
  (plainDigits? (text.takeWhile isDigitMark)).map fun _ => text.dropWhile isDigitMark

/-- What follows a fraction, which may be missing. -/
def afterFraction? : List Char → Option (List Char)
  | '.' :: text => afterDigits? text
  | text => some text

/-- What follows a power of ten, which may be missing. -/
def afterPower? : List Char → Option (List Char)
  | 'e' :: text => afterDigits? (unsigned text)
  | 'E' :: text => afterDigits? (unsigned text)
  | text => some text

/-- A number with a point or a power of ten, infinity, or the word for no number. -/
def isFloat (word : List Char) : Bool :=
  let word := unsigned word
  if word = ['i', 'n', 'f'] ∨ word = ['n', 'a', 'n'] then true
  else
    (decimal? (word.takeWhile isDigitMark)).isSome &&
      ((afterFraction? (word.dropWhile isDigitMark)).bind afterPower?) == some []

/-! ## Dates and times -/

/-- Reads a number of exactly `count` digits. -/
def readDigits? (count : Nat) (text : List Char) : Option (Nat × List Char) :=
  let digits := text.takeWhile Char.isDigit
  if digits.length = count then
    some (digitsNumber digits, text.dropWhile Char.isDigit)
  else none

/-- Reads the character `mark`. -/
def readMark? (mark : Char) : List Char → Option (List Char)
  | [] => none
  | c :: text => if c = mark then some text else none

/-- Reads hours and minutes of at most `23:59`. -/
def readHourMinute? (text : List Char) : Option (List Char) := do
  let (hour, text) ← readDigits? 2 text
  let text ← readMark? ':' text
  let (minute, text) ← readDigits? 2 text
  if hour < 24 ∧ minute < 60 then some text else none

/-- Reads the fraction of a second, which may be missing. -/
def readSecondFraction? : List Char → Option (List Char)
  | '.' :: text => if text.head?.any Char.isDigit then some (text.dropWhile Char.isDigit) else none
  | text => some text

/-- Reads a time of day; the seconds may be missing, and there may be a leap second. -/
def readClock? (text : List Char) : Option (List Char) := do
  let text ← readHourMinute? text
  match text with
  | ':' :: text => do
    let (second, text) ← readDigits? 2 text
    if second ≤ 60 then readSecondFraction? text else none
  | text => some text

/-- Reads a date of a four-digit year. -/
def readDay? (text : List Char) : Option (List Char) := do
  let (year, text) ← readDigits? 4 text
  let text ← readMark? '-' text
  let (month, text) ← readDigits? 2 text
  let text ← readMark? '-' text
  let (day, text) ← readDigits? 2 text
  let _ ← Date.ofNumbers? year month day
  some text

/-- How far a clock is ahead of UTC, which may be missing. -/
def isZone : List Char → Bool
  | [] => true
  | ['Z'] => true
  | ['z'] => true
  | '+' :: text => readHourMinute? text == some []
  | '-' :: text => readHourMinute? text == some []
  | _ => false

/-- A date, a time, or a date with a time, which may name its zone. -/
def isMoment (word : List Char) : Bool :=
  match readDay? word with
  | none => readClock? word == some []
  | some [] => true
  | some (gap :: text) =>
    (gap == 'T' || gap == 't' || gap == ' ') && (readClock? text).any isZone

/-! ## Digits that spell no number -/

/-- Whether every underscore stands between two hexadecimal digits, `before` being the character in
front of the text. -/
def areJoined (before : Char) : List Char → Bool
  | [] => true
  | c :: text =>
    (c != '_' || (Text.isHexDigit before && text.head?.any Text.isHexDigit)) && areJoined c text

/-- Decimal digits with an underscore behind them, and then characters that make no number of
them. -/
def isLooseNumber (word : List Char) : Bool :=
  match unsigned word with
  | [] => false
  | c :: word =>
    let rest := word.dropWhile Char.isDigit
    c.isDigit && c != '0' && rest.head? == some '_' && areJoined '0' rest &&
      rest.all fun c => !(c == ' ' || c == '.' || c == 'e' || c == 'E')

/-- The mark of a base without digits. -/
def isBareBase (word : List Char) : Bool :=
  word == ['0', 'x'] || word == ['0', 'o'] || word == ['0', 'b']

/-! ## Words -/

/-- A word that is no setting and still may stand in a document. -/
def isOther (word : List Char) : Bool :=
  isFloat word || isMoment word || isBareBase word || isLooseNumber word

/-- The value that a word spells. -/
def word? (word : List Char) : Option Toml :=
  if word = ['t', 'r', 'u', 'e'] then some (.bool true)
  else if word = ['f', 'a', 'l', 's', 'e'] then some (.bool false)
  else
    match integer? word with
    | some n => some (.integer n)
    | none => if isOther word then some .other else none

end SqlAccess.Toml
