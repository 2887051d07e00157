import SqlAccess.Json.Basic
import SqlAccess.Number.Decimal
import SqlAccess.Text.Ascii

/-!
# JSON documents, read

A reader for one JSON document.  Every function takes the characters that are left and answers what
it read together with what is left after it, or nothing if the document is malformed there.

* Objects keep the order of their members; a name that is repeated keeps its first place and takes
  its last value.
* Strings must be complete text: a control character must be escaped, and an escaped surrogate must
  be followed by its partner.
* Arrays and objects may be nested as deep as the caller allows.
* Whole numbers that fit 64 bits are exact; `-0` is the floating-point zero with a minus sign.

A number that is no such whole number becomes a floating-point number in two steps.  Its digits are
gathered into a whole number for as long as it fits 64 unsigned bits; digits that no longer fit only
count as powers of ten before the point, and not at all behind it.  The whole number is then
multiplied or divided by the power of ten as floating-point numbers.  Each of the two steps rounds,
so the answer may differ in its last bit from the nearest number.
-/

namespace SqlAccess.Json

/-! ## Blanks and words -/

/-- The four characters that may stand between the parts of a document. -/
def isSpace (c : Char) : Bool :=
  c == ' ' || c == '\n' || c == '\t' || c == '\r'

/-- The text without the spaces in front. -/
def dropSpace (text : List Char) : List Char :=
  text.dropWhile isSpace

/-! ## Numbers -/

/-- The digits of a number gathered into a whole number `n` of at most 64 bits; how many digits were
gathered; and what is left, which starts with a digit only if that digit no longer fits. -/
def gatherDigits : (n count : Nat) → List Char → Nat × Nat × List Char
  | n, count, [] => (n, count, [])
  | n, count, c :: text =>
    if c.isDigit && n * 10 + Text.digitValue c < 18446744073709551616 then
      gatherDigits (n * 10 + Text.digitValue c) (count + 1) text
    else (n, count, c :: text)

/-- The floating-point number nearest to a power of ten. -/
def powerOfTen (n : Nat) : Float :=
  Float.ofBits (UInt64.ofNat (Decimal.bits .double ⟨1, n⟩))

/-- `x · 10^exponent`, in steps of at most 308 powers.  Going down, three steps bring every number
of 64 bits to zero, so that `fuel` of three is enough; going up, a number that is not zero may take
one step only, and nothing is answered if it leaves the range. -/
def scaleFrom : (fuel : Nat) → Float → Int → Option Float
  | 0, x, _ => some x
  | fuel + 1, x, exponent =>
    if exponent.natAbs ≤ 308 then
      if 0 ≤ exponent then
        let y := x * powerOfTen exponent.natAbs
        if y.isInf then none else some y
      else some (x / powerOfTen exponent.natAbs)
    else if x == 0 then some x
    else if 0 ≤ exponent then none
    else scaleFrom fuel (x / powerOfTen 308) (exponent + 308)

/-- The floating-point number with the given sign, digits and power of ten. -/
def floatOf (negative : Bool) (digits : Nat) (exponent : Int) : Option Json :=
  (scaleFrom 3 (UInt64.ofNat digits).toFloat exponent).map fun x =>
    .float (if negative then -x else x)

/-- The number that decimal digits spell. -/
def exponentDigits (digits : List Char) : Nat :=
  digits.foldl (fun n c => n * 10 + Text.digitValue c) 0

/-- Reads the power of ten that follows an `e`. -/
def readPower (text : List Char) : Option (Int × List Char) :=
  let (negative, text) : Bool × List Char := match text with
    | '+' :: text => (false, text)
    | '-' :: text => (true, text)
    | text => (false, text)
  let digits := text.takeWhile Char.isDigit
  if digits.isEmpty then none
  else
    let n : Int := exponentDigits digits
    some (if negative then -n else n, text.dropWhile Char.isDigit)

/-- Reads an optional power of ten and finishes a floating-point number. -/
def readFloatEnd (negative : Bool) (digits : Nat) (exponent : Int) (text : List Char) :
    Option (Json × List Char) :=
  match text with
  | e :: rest =>
    if e = 'e' ∨ e = 'E' then do
      let (power, rest) ← readPower rest
      (floatOf negative digits (exponent + power)).map (·, rest)
    else (floatOf negative digits exponent).map (·, text)
  | [] => (floatOf negative digits exponent).map (·, text)

/-- Reads the places behind the point, of which there must be one, and finishes the number. -/
def readPlaces (negative : Bool) (digits : Nat) (exponent : Int) (text : List Char) :
    Option (Json × List Char) :=
  if (text.takeWhile Char.isDigit).isEmpty then none
  else
    let (gathered, count, rest) := gatherDigits digits 0 text
    readFloatEnd negative gathered (exponent - count) (rest.dropWhile Char.isDigit)

/-- Reads what may follow the digits of a number in front of the point, `dropped` being how many of
them did not fit. -/
def readNumberEnd (negative : Bool) (digits dropped : Nat) (text : List Char) :
    Option (Json × List Char) :=
  match text with
  | '.' :: rest => readPlaces negative digits dropped rest
  | c :: _ =>
    if dropped = 0 ∧ c ≠ 'e' ∧ c ≠ 'E' then (whole negative digits).map (·, text)
    else readFloatEnd negative digits dropped text
  | [] =>
    if dropped = 0 then (whole negative digits).map (·, text)
    else readFloatEnd negative digits dropped text
where
  /-- A number without point and power of ten: exact if it fits. -/
  whole (negative : Bool) (digits : Nat) : Option Json :=
    if negative ∧ (digits = 0 ∨ 9223372036854775808 < digits) then floatOf true digits 0
    else
      let n : Int := if negative then -(digits : Int) else digits
      (WideInteger.ofInt? n).map .integer

/-- Reads a number behind its sign.  A leading zero stands alone. -/
def readNumber (negative : Bool) : List Char → Option (Json × List Char)
  | [] => none
  | '0' :: text =>
    match text with
    | c :: _ => if c.isDigit then none else readNumberEnd negative 0 0 text
    | [] => readNumberEnd negative 0 0 text
  | c :: text =>
    if c.isDigit then
      let (digits, _, rest) := gatherDigits 0 0 (c :: text)
      let more := rest.takeWhile Char.isDigit
      readNumberEnd negative digits more.length (rest.dropWhile Char.isDigit)
    else none

/-! ## Strings -/

/-- Reads the four hexadecimal digits of an escaped code unit. -/
def readUnit : List Char → Option (Nat × List Char)
  | a :: b :: c :: d :: text => do
    let a ← Text.hexValue? a
    let b ← Text.hexValue? b
    let c ← Text.hexValue? c
    let d ← Text.hexValue? d
    some (((a * 16 + b) * 16 + c) * 16 + d, text)
  | _ => none

/-- A code unit that is the first of two. -/
def isLeadingUnit (n : Nat) : Bool := 0xD800 ≤ n && n ≤ 0xDBFF

/-- A code unit that is the second of two. -/
def isTrailingUnit (n : Nat) : Bool := 0xDC00 ≤ n && n ≤ 0xDFFF

/-- Reads the character behind an escaped code unit's mark. -/
def readEscapedUnit (text : List Char) : Option (Char × List Char) := do
  let (n, rest) ← readUnit text
  if isTrailingUnit n then none
  else if isLeadingUnit n then
    match rest with
    | '\\' :: 'u' :: rest => do
      let (m, rest) ← readUnit rest
      if isTrailingUnit m then
        some (Char.ofNat (0x10000 + (n - 0xD800) * 1024 + (m - 0xDC00)), rest)
      else none
    | _ => none
  else some (Char.ofNat n, rest)

/-- The character that a one-letter escape stands for. -/
def shortEscape? (c : Char) : Option Char :=
  if c = '"' ∨ c = '\\' ∨ c = '/' then some c
  else if c = 'b' then some '\x08'
  else if c = 'f' then some '\x0c'
  else if c = 'n' then some '\n'
  else if c = 'r' then some '\r'
  else if c = 't' then some '\t'
  else none

/-- Reads a string behind its opening quote, `read` being the characters so far in reverse.  Every
step takes a character, so the length of the text is `fuel` enough. -/
def readStringFrom : (fuel : Nat) → List Char → List Char → Option (String × List Char)
  | 0, _, _ => none
  | _ + 1, _, [] => none
  | fuel + 1, read, c :: text =>
    if c = '"' then some (String.ofList read.reverse, text)
    else if c = '\\' then
      match text with
      | 'u' :: rest => do
        let (d, rest) ← readEscapedUnit rest
        readStringFrom fuel (d :: read) rest
      | e :: rest => do
        let d ← shortEscape? e
        readStringFrom fuel (d :: read) rest
      | [] => none
    else if c.toNat < 32 then none
    else readStringFrom fuel (c :: read) text

/-- Reads a string behind its opening quote. -/
def readString (text : List Char) : Option (String × List Char) :=
  readStringFrom (text.length + 1) [] text

/-! ## Values -/

mutual

/-- Reads a value.  Arrays and objects may be nested `depth` deep; every step takes a character, so
`fuel` bounds the steps. -/
def readValue : (fuel depth : Nat) → List Char → Option (Json × List Char)
  | 0, _, _ => none
  | fuel + 1, depth, text =>
    match dropSpace text with
    | '"' :: rest => (readString rest).map fun (s, rest) => (.string s, rest)
    | '[' :: rest =>
      match depth, dropSpace rest with
      | 0, _ => none
      | _ + 1, ']' :: rest => some (.array [], rest)
      | depth + 1, rest => readItems fuel depth [] rest
    | '\x7b' :: rest =>
      match depth, dropSpace rest with
      | 0, _ => none
      | _ + 1, '\x7d' :: rest => some (.object [], rest)
      | depth + 1, rest => readMembers fuel depth [] rest
    | '-' :: rest => readNumber true rest
    | rest =>
      match Text.dropLead? ['n', 'u', 'l', 'l'] rest with
      | some rest => some (.null, rest)
      | none =>
        match Text.dropLead? ['t', 'r', 'u', 'e'] rest with
        | some rest => some (.bool true, rest)
        | none =>
          match Text.dropLead? ['f', 'a', 'l', 's', 'e'] rest with
          | some rest => some (.bool false, rest)
          | none => readNumber false rest

/-- Reads the items of an array up to its closing bracket, `items` being those read, in reverse. -/
def readItems : (fuel depth : Nat) → List Json → List Char → Option (Json × List Char)
  | 0, _, _, _ => none
  | fuel + 1, depth, items, text => do
    let (item, rest) ← readValue fuel depth text
    match dropSpace rest with
    | ',' :: rest => readItems fuel depth (item :: items) rest
    | ']' :: rest => some (.array (item :: items).reverse, rest)
    | _ => none

/-- Reads the members of an object up to its closing brace. -/
def readMembers : (fuel depth : Nat) → Entries Json → List Char → Option (Json × List Char)
  | 0, _, _, _ => none
  | fuel + 1, depth, members, text =>
    match dropSpace text with
    | '"' :: rest => do
      let (key, rest) ← readString rest
      match dropSpace rest with
      | ':' :: rest => do
        let (value, rest) ← readValue fuel depth rest
        let members := Entries.put key value members
        match dropSpace rest with
        | ',' :: rest => readMembers fuel depth members rest
        | '\x7d' :: rest => some (.object members, rest)
        | _ => none
      | _ => none
    | _ => none

end

/-- Reads a document whose arrays and objects are nested at most `depth` deep. -/
def readWithin? (depth : Nat) (s : String) : Option Json := do
  let text := s.toList
  let (value, rest) ← readValue (text.length + 1) depth text
  if (dropSpace rest).isEmpty then some value else none

/-- The nesting that a document may have. -/
def nestingLimit : Nat := 127

/-- Reads a document. -/
def read? (s : String) : Option Json :=
  readWithin? nestingLimit s

end SqlAccess.Json
