import SqlAccess.Calendar.Text
import SqlAccess.Json.Basic
import SqlAccess.Number.FloatText
import SqlAccess.Text.Quoted
import SqlAccess.Text.Utf8

/-!
# SQL values

`Value` is the one scalar type of the library: what filters compare with, what statements write and
what rows hold.  Two of its forms are no scalars.  A list stands only in filters, where it means
membership, and a raw value is a piece of SQL that is put into the statement as it is.

Values meet JSON in both directions.  A JSON value becomes a value unless it holds an object, and
the only object that is understood is the raw marker, an object whose one member is named `raw` and
holds a string.  The other way every value becomes JSON: dates and times as text, bytes as text if
they are text, a number that JSON cannot write as null, and a raw value as its text.
-/

namespace SqlAccess

/-- A value of a column, of a filter or of a statement. -/
inductive Value where
  | null
  | bool (b : Bool)
  | int (n : Int64)
  | uint (n : UInt64)
  | float (x : Float)
  | text (s : String)
  | bytes (b : List UInt8)
  | date (d : Date)
  | dateTime (dt : DateTime)
  /-- Several values, for filters only. -/
  | list (items : List Value)
  /-- SQL that is written as it is. -/
  | raw (sql : String)

namespace Value

instance : Inhabited Value := ⟨.null⟩

/-- Whether the value is null. -/
def isNull : Value → Bool
  | .null => true
  | _ => false

/-- Whether the value is a list. -/
def isList : Value → Bool
  | .list _ => true
  | _ => false

/-- Whether the value is a scalar: neither a list nor raw SQL. -/
def isScalar : Value → Bool
  | .list _ => false
  | .raw _ => false
  | _ => true

/-- The text of a text value. -/
def text? : Value → Option String
  | .text s => some s
  | _ => none

/-! ## Values in messages -/

mutual

/-- The value as messages show it: the name of its form, and its content. -/
def shown : Value → String
  | .null => "Null"
  | .bool b => if b then "Bool(true)" else "Bool(false)"
  | .int n => s!"Int({n.toInt})"
  | .uint n => s!"UInt({n.toNat})"
  | .float x => "Float(" ++ shownFloatText x ++ ")"
  | .text s => "Text(" ++ Text.quoted s ++ ")"
  | .bytes b => "Bytes([" ++ ", ".intercalate (b.map fun n => toString n.toNat) ++ "])"
  | .date d => "Date(" ++ String.ofList d.text ++ ")"
  | .dateTime dt => "DateTime(" ++ String.ofList (dt.text 'T' exactFraction) ++ ")"
  | .list items => "List([" ++ ", ".intercalate (shownItems items) ++ "])"
  | .raw sql => "Raw(" ++ Text.quoted sql ++ ")"

/-- The items of a list as messages show them. -/
def shownItems : List Value → List String
  | [] => []
  | item :: items => shown item :: shownItems items

end

/-! ## From JSON -/

/-- The SQL of an object that is a raw marker. -/
def rawMarker? : List (String × Json) → Option String
  | [("raw", .string sql)] => some sql
  | _ => none

/-- A whole number as a value: signed if it fits, else unsigned. -/
def ofWideInteger (n : WideInteger) : Value :=
  if n.val < 9223372036854775808 then .int (Int64.ofInt n.val) else .uint (UInt64.ofNat n.val.toNat)

/-- What is said about an object that is no raw marker. -/
def objectRefusal : String :=
  "object values are only allowed as \x7b\"raw\": \"...\"\x7d markers"

mutual

/-- The value of a JSON value, unless it holds an object that is no raw marker. -/
def ofJson? : Json → Option Value
  | .null => some .null
  | .bool b => some (.bool b)
  | .integer n => some (ofWideInteger n)
  | .float x => some (.float x)
  | .string s => some (.text s)
  | .array items => (ofJsonItems? items).map .list
  | .object members => (rawMarker? members).map .raw

/-- The values of the items of a JSON array. -/
def ofJsonItems? : List Json → Option (List Value)
  | [] => some []
  | item :: items => do
    let value ← ofJson? item
    let values ← ofJsonItems? items
    some (value :: values)

end

/-! ## To JSON -/

/-- Bytes as JSON: a string if they are text, else an array of numbers. -/
def bytesJson (b : List UInt8) : Json :=
  match Text.utf8Decode b with
  | .ok s => .string s
  | .error _ => .array (b.map fun n => .integer (.ofUInt64 n.toUInt64))

mutual

/-- The value as JSON. -/
def toJson : Value → Json
  | .null => .null
  | .bool b => .bool b
  | .int n => .integer (.ofInt64 n)
  | .uint n => .integer (.ofUInt64 n)
  | .float x => if x.isFinite then .float x else .null
  | .text s => .string s
  | .bytes b => bytesJson b
  | .date d => .string (String.ofList d.text)
  | .dateTime dt => .string (String.ofList (dt.text 'T' exactFraction))
  | .list items => .array (toJsonItems items)
  | .raw sql => .string sql

/-- The items of a list as JSON. -/
def toJsonItems : List Value → List Json
  | [] => []
  | item :: items => toJson item :: toJsonItems items

end

end Value

end SqlAccess
