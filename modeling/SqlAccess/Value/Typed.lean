import SqlAccess.Calendar.Reading
import SqlAccess.Json.Reader
import SqlAccess.Number.Integer
import SqlAccess.Text.Blank
import SqlAccess.Uuid
import SqlAccess.Value

/-!
# Values and typed data

Two classes join `Value` to the types a program works with.  `ToValue α` says how an `α` is written
as a value and `OfValue α` how one is read from a value.  Reading is the more generous of the two:
rows that come as text hold numbers, dates and truth values as text, so a type is also read from its
written form, with blanks around it.

Whole numbers of every width share one reader, which knows the type only by its name and its range
(`BoundedInteger`).  An optional type reads null as nothing, and a list of any type is written as a
list; a list of bytes is read from bytes or text.
-/

namespace SqlAccess

/-! ## Faults -/

/-- Why a value is not of the wanted type. -/
inductive ExtractError where
  | integer (cause : IntegerError)
  | float (cause : FloatError)
  | notBoolean (text : String)
  | utf8 (cause : Text.Utf8Error)
  | calendar (cause : CalendarError)
  | uuid
  | json
  /-- The value has a form that the type is never read from. -/
  | unexpected (expected : String) (got : Value)

/-- The fault, in words. -/
def ExtractError.message : ExtractError → String
  | .integer cause => cause.message
  | .float cause => cause.message
  | .notBoolean text => s!"expected boolean, got {Text.quoted text}"
  | .utf8 cause => cause.message
  | .calendar cause => cause.message
  | .uuid => "invalid UUID"
  | .json => "invalid JSON"
  | .unexpected expected got => s!"expected {expected}, got {got.shown}"

/-! ## The two classes -/

/-- Types that are written as values. -/
class ToValue (α : Type) where
  toValue : α → Value

export ToValue (toValue)

/-- Types that are read from values. -/
class OfValue (α : Type) where
  ofValue : Value → Except ExtractError α

export OfValue (ofValue)

/-! ## Whole numbers -/

/-- Whole numbers of a fixed width. -/
class BoundedInteger (α : Type) where
  /-- The name that messages use. -/
  name : String
  range : IntegerRange
  ofInt : Int → α
  toInt : α → Int

instance : BoundedInteger Int8 := ⟨"i8", .signed 7, Int8.ofInt, Int8.toInt⟩

instance : BoundedInteger Int16 := ⟨"i16", .signed 15, Int16.ofInt, Int16.toInt⟩

instance : BoundedInteger Int32 := ⟨"i32", .signed 31, Int32.ofInt, Int32.toInt⟩

instance : BoundedInteger Int64 := ⟨"i64", .signed 63, Int64.ofInt, Int64.toInt⟩

instance : BoundedInteger UInt8 := ⟨"u8", .unsigned 8, fun n => .ofNat n.toNat, fun n => n.toNat⟩

instance : BoundedInteger UInt16 := ⟨"u16", .unsigned 16, fun n => .ofNat n.toNat, fun n => n.toNat⟩

instance : BoundedInteger UInt32 := ⟨"u32", .unsigned 32, fun n => .ofNat n.toNat, fun n => n.toNat⟩

instance : BoundedInteger UInt64 := ⟨"u64", .unsigned 64, fun n => .ofNat n.toNat, fun n => n.toNat⟩

/-- The whole number of a range that a value holds: a number that fits, a truth value as zero or
one, or the decimal text of a number. -/
def Value.integer (name : String) (range : IntegerRange) : Value → Except ExtractError Int
  | .int n => (range.fit n.toInt).mapError .integer
  | .uint n => (range.fit n.toNat).mapError .integer
  | .bool b => .ok (if b then 1 else 0)
  | .text s => (range.read (Text.trimList s.toList)).mapError .integer
  | other => .error (.unexpected name other)

instance {α : Type} [BoundedInteger α] : OfValue α where
  ofValue v :=
    (v.integer (BoundedInteger.name α) (BoundedInteger.range α)).map BoundedInteger.ofInt

instance : ToValue Int8 := ⟨fun n => .int n.toInt64⟩

instance : ToValue Int16 := ⟨fun n => .int n.toInt64⟩

instance : ToValue Int32 := ⟨fun n => .int n.toInt64⟩

instance : ToValue Int64 := ⟨.int⟩

instance : ToValue UInt8 := ⟨fun n => .uint n.toUInt64⟩

instance : ToValue UInt16 := ⟨fun n => .uint n.toUInt64⟩

instance : ToValue UInt32 := ⟨fun n => .uint n.toUInt64⟩

instance : ToValue UInt64 := ⟨.uint⟩

/-! ## Floating-point numbers -/

/-- The floating-point number that a value holds. -/
def Value.toFloat : Value → Except ExtractError Float
  | .float x => .ok x
  | .int n => .ok n.toFloat
  | .uint n => .ok n.toFloat
  | .text s => (readFloat (Text.trimList s.toList)).mapError .float
  | other => .error (.unexpected "f64" other)

instance : OfValue Float := ⟨Value.toFloat⟩

/-- A number of the narrow format is read as a wide one and then rounded. -/
instance : OfValue Float32 := ⟨fun v => v.toFloat.map Float.toFloat32⟩

instance : ToValue Float := ⟨.float⟩

instance : ToValue Float32 := ⟨fun x => .float x.toFloat⟩

/-! ## Truth values and text -/

/-- The truth value that a value holds: a number is true unless it is zero, and text is true or
false if it is one of three words for each. -/
def Value.toBool : Value → Except ExtractError Bool
  | .bool b => .ok b
  | .int n => .ok (n != 0)
  | .uint n => .ok (n != 0)
  | .text s =>
    let word := Text.trim s
    if word = "1" ∨ word = "true" ∨ word = "TRUE" then .ok true
    else if word = "0" ∨ word = "false" ∨ word = "FALSE" then .ok false
    else .error (.notBoolean word)
  | other => .error (.unexpected "bool" other)

instance : OfValue Bool := ⟨Value.toBool⟩

instance : ToValue Bool := ⟨.bool⟩

/-- The text that a value holds; numbers are written out. -/
def Value.toText : Value → Except ExtractError String
  | .text s => .ok s
  | .bytes b => (Text.utf8Decode b).mapError .utf8
  | .int n => .ok (toString n.toInt)
  | .uint n => .ok (toString n.toNat)
  | .float x => .ok (floatText x)
  | other => .error (.unexpected "text" other)

instance : OfValue String := ⟨Value.toText⟩

instance : ToValue String := ⟨.text⟩

/-- The bytes that a value holds. -/
def Value.toBytes : Value → Except ExtractError (List UInt8)
  | .bytes b => .ok b
  | .text s => .ok (Text.utf8Encode s)
  | other => .error (.unexpected "bytes" other)

instance : OfValue (List UInt8) := ⟨Value.toBytes⟩

/-! ## Dates and times -/

/-- The date that a value holds. -/
def Value.toDate : Value → Except ExtractError Date
  | .date d => .ok d
  | .dateTime dt => .ok dt.date
  | .text s => (readDate (Text.trimList s.toList)).mapError .calendar
  | other => .error (.unexpected "date" other)

instance : OfValue Date := ⟨Value.toDate⟩

instance : ToValue Date := ⟨.date⟩

/-- The date and time that a value holds; a date stands for its first instant. -/
def Value.toDateTime : Value → Except ExtractError DateTime
  | .dateTime dt => .ok dt
  | .date d => .ok d.midnight
  | .text s => (readDateTime (Text.trimList s.toList)).mapError .calendar
  | other => .error (.unexpected "datetime" other)

instance : OfValue DateTime := ⟨Value.toDateTime⟩

instance : ToValue DateTime := ⟨.dateTime⟩

/-- A zoned date and time is written on the clock of UTC. -/
def ZonedDateTime.value? (z : ZonedDateTime) : Option Value :=
  z.utc?.map .dateTime

/-- What is stored is the clock of UTC. -/
instance : OfValue UtcDateTime := ⟨fun v => v.toDateTime.map .mk⟩

instance : ToValue UtcDateTime := ⟨fun instant => .dateTime instant.clock⟩

/-! ## Identifiers, JSON and values themselves -/

/-- The UUID that a value holds. -/
def Value.toUuid : Value → Except ExtractError Uuid
  | .text s =>
    match Uuid.read? (Text.trimList s.toList) with
    | some u => .ok u
    | none => .error .uuid
  | .bytes b =>
    match Uuid.ofBytes? b with
    | some u => .ok u
    | none => .error .uuid
  | other => .error (.unexpected "uuid" other)

instance : OfValue Uuid := ⟨Value.toUuid⟩

instance : ToValue Uuid := ⟨fun u => .text u.text⟩

/-- The JSON that a value holds: text is read as a document, and every other value is turned into
JSON. -/
def Value.readJson : Value → Except ExtractError Json
  | .text s =>
    match Json.read? s with
    | some j => .ok j
    | none => .error .json
  | other => .ok other.toJson

instance : OfValue Json := ⟨Value.readJson⟩

instance : OfValue Value := ⟨.ok⟩

instance : ToValue Value := ⟨id⟩

/-! ## Optional values and lists -/

instance {α : Type} [OfValue α] : OfValue (Option α) where
  ofValue
    | .null => .ok none
    | other => (ofValue other).map some

instance {α : Type} [ToValue α] : ToValue (Option α) where
  toValue
    | none => .null
    | some a => toValue a

instance {α : Type} [ToValue α] : ToValue (List α) where
  toValue items := .list (items.map toValue)

end SqlAccess
