import SqlAccess.Number.Integer
import SqlAccess.Text.Slice

/-!
# Time zones of sessions

A session either keeps the time zone of its server (`local`), or is set to a fixed offset from UTC.
The offset is written `Z` for none at all, or with a sign, hours of at most 14 and minutes, as in
`+05:30`.  It is handed to the server as it is written.
-/

namespace SqlAccess

/-- The time zone of a session. -/
inductive SessionZone where
  /-- The server decides. -/
  | server
  /-- A fixed offset, as the server is told it. -/
  | offset (text : String)
deriving DecidableEq, Repr

namespace SessionZone

/-- Whether a piece of a text is a number that is at most `limit`. -/
def isFieldUpTo (limit : Nat) : Option (List Char) → Bool
  | none => false
  | some piece =>
    match (IntegerRange.unsigned 8).read piece with
    | .ok n => n ≤ limit
    | .error _ => false

/-- The form of a written offset.  Its six bytes are looked at by their places. -/
def isOffset (s : String) : Bool :=
  let bytes := s.toUTF8.data
  bytes.size == 6 && (bytes[0]? == some '+'.toUInt8 || bytes[0]? == some '-'.toUInt8) &&
    bytes[3]? == some ':'.toUInt8 && isFieldUpTo 14 (Text.slice? 1 3 s.toList) &&
    isFieldUpTo 59 (Text.slice? 4 6 s.toList)

/-- The time zone that a text names. -/
def ofText? (s : String) : Option SessionZone :=
  if s = "local" then some .server
  else if s = "Z" ∨ s = "z" then some (.offset "+00:00")
  else if isOffset s then some (.offset s)
  else none

/-- The offset that the server is told. -/
def offset? : SessionZone → Option String
  | .server => none
  | .offset text => some text

end SessionZone

end SqlAccess
