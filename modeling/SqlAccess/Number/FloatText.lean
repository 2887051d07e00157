import SqlAccess.Number.Decimal

/-!
# Floating-point numbers as text

Three written forms of one number, and one reader.

* `floatText` is the form that goes into statements and answers: the fewest digits that read
  back, always positional, with no point where the number is whole.
* `shownFloatText` is the form that messages use: a whole number keeps `.0`, and a number of at
  least `10^16` or below `10^-4` is written with a power of ten.
* `readFloat` and `readSingle` take an optional sign, digits with at most one point, at least one
  digit in all, and an optional power of ten; or one of the words for infinity and for no number, in
  any case.

The words for the numbers without digits are `NaN` and `inf`.
-/

namespace SqlAccess

/-! ## Writing -/

/-- How numbers are written: the digits chosen between two equally near decimals, and the text of
the decimal. -/
structure FloatStyle where
  tie : Decimal.Tie
  write : Decimal → List Char

/-- The text of a magnitude. -/
def magnitudeText (format : BinaryFormat) (style : FloatStyle) : Magnitude → List Char
  | .nan => ['N', 'a', 'N']
  | .infinite => ['i', 'n', 'f']
  | .finite m q => style.write (Decimal.shortest format style.tie m q)

/-- The text of the bits of a number: a minus sign for a negative number, zero included, unless the
bits spell no number. -/
def binaryText (format : BinaryFormat) (style : FloatStyle) (bits : Nat) : String :=
  let magnitude := format.decode bits
  let text := magnitudeText format style magnitude
  match magnitude with
  | .nan => String.ofList text
  | _ => String.ofList (if format.isNegative bits then '-' :: text else text)

/-- The magnitude of a decimal: the `k` with `10^(k-1) ≤ d < 10^k`. -/
def magnitudeOf (d : Decimal) : Int :=
  d.exponent + Decimal.digitCount d.coefficient

/-- Positional digits, without a point where the number is whole. -/
def plainStyle : FloatStyle :=
  ⟨.up, fun d => d.positional false⟩

/-- Positional digits with at least one place, or a power of ten from `10^16` on and below
`10^-4`. -/
def shownStyle : FloatStyle :=
  ⟨.up, fun d =>
    if d.coefficient ≠ 0 ∧ (16 < magnitudeOf d ∨ magnitudeOf d < -3) then
      d.scientific Text.intText
    else d.positional true⟩

/-- A power of ten with its sign, a plus sign included. -/
def signedPower (n : Int) : List Char :=
  if n < 0 then Text.intText n else '+' :: Text.intText n

/-- Positional digits with at least one place, or a power of ten from `10^16` on and below
`10^-5`. -/
def jsonStyle : FloatStyle :=
  ⟨.even, fun d =>
    if d.coefficient ≠ 0 ∧ (16 < magnitudeOf d ∨ magnitudeOf d < -4) then d.scientific signedPower
    else d.positional true⟩

/-- The number in plain positional digits. -/
def floatText (x : Float) : String :=
  binaryText .double plainStyle x.toBits.toNat

/-- The number as messages show it. -/
def shownFloatText (x : Float) : String :=
  binaryText .double shownStyle x.toBits.toNat

/-- The number as JSON documents hold it; the document never holds infinity or no number. -/
def jsonFloatText (x : Float) : String :=
  binaryText .double jsonStyle x.toBits.toNat

/-- The number of the narrow format in plain positional digits. -/
def singleText (x : Float32) : String :=
  binaryText .single plainStyle x.toBits.toNat

/-! ## Reading -/

/-- Why a text is not a floating-point number. -/
inductive FloatError where
  | empty
  | invalid
deriving DecidableEq, Repr

/-- The fault, in words. -/
def FloatError.message : FloatError → String
  | .empty => "cannot parse float from empty string"
  | .invalid => "invalid float literal"

/-- The number that digits spell, behind the number `n`. -/
def digitsValueFrom (n : Nat) (digits : List Char) : Nat :=
  digits.foldl (fun n c => n * 10 + Text.digitValue c) n

/-- Reads a power of ten: nothing, or an `e` with an optional sign and at least one digit. -/
def readExponent : List Char → Option Int
  | [] => some 0
  | e :: text =>
    if e = 'e' ∨ e = 'E' then
      let (negative, digits) : Bool × List Char := match text with
        | '+' :: digits => (false, digits)
        | '-' :: digits => (true, digits)
        | digits => (false, digits)
      if digits.isEmpty || !digits.all Char.isDigit then none
      else
        let n : Int := digitsValueFrom 0 digits
        some (if negative then -n else n)
    else none

/-- Reads an unsigned decimal number. -/
def readDecimal (text : List Char) : Option Decimal :=
  let whole := text.takeWhile Char.isDigit
  let rest := text.dropWhile Char.isDigit
  let (fraction, rest) : List Char × List Char := match rest with
    | '.' :: after => (after.takeWhile Char.isDigit, after.dropWhile Char.isDigit)
    | rest => ([], rest)
  if whole.isEmpty && fraction.isEmpty then none
  else
    (readExponent rest).map fun exponent =>
      ⟨digitsValueFrom 0 (whole ++ fraction), exponent - fraction.length⟩

/-- The bits that the words for infinity and for no number stand for. -/
def readFloatWord (format : BinaryFormat) (text : List Char) : Option Nat :=
  let word := text.map Char.toLower
  if word = ['i', 'n', 'f'] ∨ word = ['i', 'n', 'f', 'i', 'n', 'i', 't', 'y'] then
    some format.infinityBits
  else if word = ['n', 'a', 'n'] then some (format.infinityBits + format.leading / 2)
  else none

/-- Reads an unsigned number or word as bits of the format. -/
def readMagnitude (format : BinaryFormat) (text : List Char) : Option Nat :=
  match readDecimal text with
  | some d => some (d.bits format)
  | none => readFloatWord format text

/-- Reads a floating-point number as bits of the format: the number nearest to what is written. -/
def readBinary (format : BinaryFormat) : List Char → Except FloatError Nat
  | [] => .error .empty
  | sign :: text =>
    let negative := sign = '-'
    let unsigned := if sign = '-' ∨ sign = '+' then text else sign :: text
    match readMagnitude format unsigned with
    | some bits => .ok (if negative then bits + format.signBit else bits)
    | none => .error .invalid

/-- Reads a floating-point number. -/
def readFloat (text : List Char) : Except FloatError Float :=
  (readBinary .double text).map fun bits => Float.ofBits (UInt64.ofNat bits)

/-- Reads a floating-point number of the narrow format. -/
def readSingle (text : List Char) : Except FloatError Float32 :=
  (readBinary .single text).map fun bits => Float32.ofBits (UInt32.ofNat bits)

end SqlAccess
