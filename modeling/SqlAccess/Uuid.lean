import SqlAccess.Text.Ascii

/-!
# Universally unique identifiers

A UUID is a number of 128 bits.  It is written as thirty-two lower-case hexadecimal digits in groups
of eight, four, four, four and twelve with hyphens between them.  It is read, in either case, from

* the thirty-two digits alone,
* the digits in their groups, with hyphens,
* the hyphenated form in braces, or behind `urn:uuid:`.
-/

namespace SqlAccess

/-- A universally unique identifier. -/
structure Uuid where
  bits : BitVec 128
deriving DecidableEq

namespace Uuid

/-- The lengths of the groups of digits. -/
def groups : List Nat := [8, 4, 4, 4, 12]

/-- The last `n` hexadecimal digits of a number, most significant first. -/
def hexDigits : (n value : Nat) → List Char
  | 0, _ => []
  | n + 1, value => hexDigits n (value / 16) ++ [Text.hexDigit value]

/-- Cuts digits into groups of the given lengths. -/
def cutGroups : List Nat → List Char → List (List Char)
  | [], _ => []
  | n :: lengths, digits => digits.take n :: cutGroups lengths (digits.drop n)

/-- The hyphenated text of a UUID. -/
def text (u : Uuid) : String :=
  String.ofList (List.intercalate ['-'] (cutGroups groups (hexDigits 32 u.bits.toNat)))

/-- The number that hexadecimal digits spell, behind the number `n`. -/
def hexNumberFrom (n : Nat) : List Char → Option Nat
  | [] => some n
  | c :: digits =>
    match Text.hexValue? c with
    | some d => hexNumberFrom (n * 16 + d) digits
    | none => none

/-- The digits of the hyphenated form: groups of the given lengths with one hyphen between two of
them and nothing behind the last. -/
def joinGroups? : List Nat → List Char → Option (List Char)
  | [], text => if text.isEmpty then some [] else none
  | [n], text => if text.length = n then some text else none
  | n :: lengths, text =>
    match text.drop n with
    | '-' :: rest => (joinGroups? lengths rest).map (text.take n ++ ·)
    | _ => none

/-- What stands inside the braces or behind the name space, for a hyphenated form that has them. -/
def unwrapped (text : List Char) : List Char :=
  match Text.dropLead? ['u', 'r', 'n', ':', 'u', 'u', 'i', 'd', ':'] text with
  | some inner => inner
  | none =>
    match text, text.getLast? with
    | '\x7b' :: inner, some '\x7d' => inner.dropLast
    | _, _ => text

/-- Reads a UUID. -/
def read? (text : List Char) : Option Uuid := do
  let digits ← if text.length = 32 then some text else joinGroups? groups (unwrapped text)
  let number ← hexNumberFrom 0 digits
  some ⟨BitVec.ofNat 128 number⟩

/-- The UUID of sixteen bytes, most significant first. -/
def ofBytes? (bytes : List UInt8) : Option Uuid :=
  if bytes.length = 16 then
    some ⟨BitVec.ofNat 128 (bytes.foldl (fun n b => n * 256 + b.toNat) 0)⟩
  else none

end Uuid

end SqlAccess
