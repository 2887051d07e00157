import SqlAccess.Calendar.Date
import SqlAccess.Text.Ascii
import SqlAccess.Text.Blank

/-!
# Dates and times read from text

The reader of dates is more generous than the writer: a number may have fewer digits than the writer
gives it, and blanks may stand in front of every number.  The parts are read from the left, each one
checked against its own range when it is read; whether the day exists is asked at the very end.  So
of two faults the one further left is reported, and a day such as the thirtieth of February only if
nothing else is wrong.

A signed year may have any number of digits; an unsigned one has at most four.
-/

namespace SqlAccess

/-- Why a text is no date or no time. -/
inductive CalendarError where
  | tooShort
  | invalid
  | outOfRange
  | trailing
deriving DecidableEq, Repr

/-- The fault, in words. -/
def CalendarError.message : CalendarError → String
  | .tooShort => "premature end of input"
  | .invalid => "input contains invalid characters"
  | .outOfRange => "input is out of range"
  | .trailing => "trailing input"

/-- The number that decimal digits spell. -/
def digitsNumber (digits : List Char) : Nat :=
  digits.foldl (fun n c => n * 10 + Text.digitValue c) 0

/-- Reads at least one digit and at most `most` of them. -/
def readDigitRun (most : Nat) (text : List Char) :
    Except CalendarError (Nat × List Char) :=
  let digits := (text.take most).takeWhile Char.isDigit
  if text.isEmpty then .error .tooShort
  else if digits.isEmpty then .error .invalid
  else .ok (digitsNumber digits, text.drop digits.length)

/-- Reads the character `c`. -/
def readMark (c : Char) : List Char → Except CalendarError (List Char)
  | [] => .error .tooShort
  | d :: text => if d = c then .ok text else .error .invalid

/-- Reads a number of at most two digits between `low` and `high`, with blanks in front. -/
def readField (low high : Nat) (text : List Char) :
    Except CalendarError (Nat × List Char) := do
  let (n, rest) ← readDigitRun 2 (Text.dropBlanks text)
  if low ≤ n ∧ n ≤ high then .ok (n, rest) else .error .outOfRange

/-- The years that are looked at as numbers at all; a year beyond them is out of range at once. -/
def isReadableYear (year : Int) : Bool :=
  -2147483648 ≤ year && year < 2147483648

/-- Reads a year: up to four digits, or a sign and any number of digits. -/
def readYear (text : List Char) :
    Except CalendarError (Int × List Char) := do
  let (year, rest) ← match Text.dropBlanks text with
    | '-' :: digits => (readDigitRun digits.length digits).map fun (n, rest) => (-(n : Int), rest)
    | '+' :: digits => (readDigitRun digits.length digits).map fun (n, rest) => ((n : Int), rest)
    | digits => (readDigitRun 4 digits).map fun (n, rest) => ((n : Int), rest)
  if isReadableYear year then .ok (year, rest) else .error .outOfRange

/-- Year, month and day as they are written, before it is known whether the day exists. -/
structure DateNumbers where
  year : Int
  month : Nat
  day : Nat

/-- Reads year, month and day. -/
def readDateNumbers (text : List Char) :
    Except CalendarError (DateNumbers × List Char) := do
  let (year, text) ← readYear text
  let text ← readMark '-' text
  let (month, text) ← readField 1 12 text
  let text ← readMark '-' text
  let (day, text) ← readField 1 31 text
  .ok (⟨year, month, day⟩, text)

/-- The day that the numbers name. -/
def DateNumbers.date (n : DateNumbers) : Except CalendarError Date :=
  match Date.ofNumbers? n.year n.month n.day with
  | some d => .ok d
  | none => .error .outOfRange

/-- Reads the fraction of a second: nothing, or a point and digits, of which nine count.  The answer
is in nanoseconds. -/
def readFraction : List Char → Except CalendarError (Nat × List Char)
  | '.' :: text => do
    let (n, rest) ← readDigitRun 9 text
    let places := min 9 (text.length - rest.length)
    .ok (n * Nat.pow 10 (9 - places), rest.dropWhile Char.isDigit)
  | text => .ok (0, text)

/-- Reads hour, minute, second and the fraction of the second.  The sixtieth second is the leap
second after the fifty-ninth. -/
def readTime (text : List Char) :
    Except CalendarError (Time × List Char) := do
  let (hour, text) ← readField 0 23 text
  let text ← readMark ':' text
  let (minute, text) ← readField 0 59 text
  let text ← readMark ':' text
  let (second, text) ← readField 0 60 text
  let (nanosecond, text) ← readFraction text
  let leap := second / 60
  match Time.ofNumbers? hour minute (second - leap) (nanosecond + leap * 1000000000) with
  | some time => .ok (time, text)
  | none => .error .outOfRange

/-- Whether a text ends where its last part ended. -/
def readEnd (text : List Char) : Except CalendarError Unit :=
  if text.isEmpty then .ok () else .error .trailing

/-- Reads a date. -/
def readDate (text : List Char) : Except CalendarError Date := do
  let (numbers, text) ← readDateNumbers text
  readEnd text
  numbers.date

/-- What may stand between date and time. -/
inductive DateTimeGap where
  /-- Any number of blanks, none included. -/
  | blanks
  /-- Exactly this character. -/
  | mark (c : Char)

/-- Reads what stands between date and time. -/
def DateTimeGap.read : DateTimeGap → List Char → Except CalendarError (List Char)
  | .blanks, text => .ok (Text.dropBlanks text)
  | .mark c, text => readMark c text

/-- Reads a date and a time with the given gap between them. -/
def readDateTimeWith (gap : DateTimeGap) (text : List Char) : Except CalendarError DateTime := do
  let (numbers, text) ← readDateNumbers text
  let text ← gap.read text
  let (time, text) ← readTime text
  readEnd text
  let date ← numbers.date
  .ok ⟨date, time⟩

/-- Reads a date and a time with blanks or a `T` between them; the fault reported is the one found
when a `T` is expected. -/
def readDateTime (text : List Char) : Except CalendarError DateTime :=
  match readDateTimeWith .blanks text with
  | .ok dt => .ok dt
  | .error _ => readDateTimeWith (.mark 'T') text

end SqlAccess
