import SqlAccess.Text.Ascii
import SqlAccess.Text.Utf8

/-!
# Percent-encoding

In an address a byte may be written as a percent sign with two hexadecimal digits.  A percent sign
that no two digits follow stands for itself, so every text can be decoded; what it decodes to are
bytes, which need not spell a text.

The query of an address has its own form on top of this: pairs of a name and a value, joined by
ampersands, with a plus sign for a space.
-/

namespace SqlAccess.Url

/-- The bytes that a percent-encoded text stands for. -/
def decodeBytes : List Char → List UInt8
  | [] => []
  | '%' :: h :: l :: text =>
    match Text.hexValue? h, Text.hexValue? l with
    | some h, some l => UInt8.ofNat (h * 16 + l) :: decodeBytes text
    | _, _ => String.utf8EncodeChar '%' ++ decodeBytes (h :: l :: text)
  | c :: text => String.utf8EncodeChar c ++ decodeBytes text

/-- The text that a percent-encoded text stands for. -/
def decode (text : List Char) : Except Text.Utf8Error String :=
  Text.utf8Decode (decodeBytes text)

/-- A byte as a percent sign and two upper-case digits. -/
def encodedByte (b : UInt8) : List Char :=
  ['%', (Text.hexDigit (b.toNat / 16)).toUpper, (Text.hexDigit b.toNat).toUpper]

/-- The text with everything encoded that is no visible ASCII character or space. -/
def encodeControls (text : List Char) : List Char :=
  text.flatMap fun c =>
    if ' ' ≤ c ∧ c ≤ '~' then [c] else (String.utf8EncodeChar c).flatMap encodedByte

/-! ## Queries -/

/-- The text of one side of a pair. -/
def decodeSide (text : List Char) : String :=
  Text.utf8DecodeLossy (decodeBytes (text.map fun c => if c = '+' then ' ' else c))

/-- The name and the value of a pair; without an equals sign the value is empty. -/
def decodePair (pair : List Char) : String × String :=
  match Text.splitAtMark? ['='] pair with
  | some (name, value) => (decodeSide name, decodeSide value)
  | none => (decodeSide pair, "")

/-- The pairs of a query, in order. -/
def decodePairs (query : List Char) : List (String × String) :=
  ((Text.pieces '&' query).filter fun piece => !piece.isEmpty).map decodePair

end SqlAccess.Url
