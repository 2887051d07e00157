import SqlAccess.Entries
import SqlAccess.Error
import SqlAccess.Json.Writer
import SqlAccess.Value.Typed

/-!
# Records

A record is a row of a table, or what is to be written into one: named values in order.  It grows by
`insert` and `set`, which keep every name once.  A row that a driver delivers may name a column
several times, as a join does; such a row is wrapped as it is, and `Record.collapse` turns it into a
record with every name once, at its first place and with its last value.

`RecordSource` is what a caller may pass where a record is wanted: a record, a JSON object whose
members become its values, or something of the caller's own that makes a record when it is asked.
-/

namespace SqlAccess

/-- Named values in order. -/
structure Record where
  entries : Entries Value

namespace Record

instance : Inhabited Record := ⟨⟨[]⟩⟩

/-! ## Building and changing -/

/-- The record without columns. -/
def empty : Record := ⟨[]⟩

/-- A row as a driver delivers it, repeated names included. -/
def ofColumns (columns : Entries Value) : Record := ⟨columns⟩

/-- The record without a value under `key` or with a new one; the other columns keep their places.
-/
def set (r : Record) (key : String) (value : Value) : Record :=
  ⟨r.entries.put key value⟩

/-- The value under a name, the first if there are several. -/
def get? (r : Record) (key : String) : Option Value :=
  r.entries.find? key

/-- Puts a value in and answers the one that was there before. -/
def insert (r : Record) (key : String) (value : Value) : Option Value × Record :=
  (r.get? key, r.set key value)

/-- Takes a value out and answers it. -/
def remove (r : Record) (key : String) : Option Value × Record :=
  (r.get? key, ⟨r.entries.erase key⟩)

/-- The record whose columns are put in one after the other. -/
def ofList (columns : Entries Value) : Record := ⟨columns.collapse⟩

/-- The record with every name once, at its first place and with its last value. -/
def collapse (r : Record) : Record := ofList r.entries

/-! ## Asking -/

/-- Whether there is a value under a name. -/
def contains (r : Record) (key : String) : Bool :=
  (r.get? key).isSome

/-- The names in order. -/
def keys (r : Record) : List String := r.entries.keys

/-- The values in order. -/
def values (r : Record) : List Value := r.entries.map Prod.snd

/-- The number of columns. -/
def size (r : Record) : Nat := r.entries.length

/-- Whether there are no columns. -/
def isEmpty (r : Record) : Bool := r.entries.isEmpty

/-- The value under a name, which must be there. -/
def require (r : Record) (column : String) : Except Error Value :=
  match r.get? column with
  | none => .error (.decode column "column not found")
  | some value => .ok value

/-- The value under a name as a value of some type. -/
def getAs (α : Type) [OfValue α] (r : Record) (column : String) : Except Error α := do
  let value ← r.require column
  (ofValue value).mapError fun e => .decode column e.message

/-- The record as a JSON object. -/
def toJson (r : Record) : Json :=
  .object (Entries.collapse (r.entries.map fun (k, v) => (k, v.toJson)))

end Record

/-! ## What records are made from -/

/-- Why something is no record. -/
inductive RecordError where
  /-- A member of the object holds an object. -/
  | objectField (key : String)
  | notAnObject (got : Json)
  /-- Something of the caller's own makes none. -/
  | own (cause : Error)

/-- What is said about an object inside something larger. -/
def objectRefusalMessage : String :=
  (Error.validation Value.objectRefusal).message

namespace RecordError

/-- The fault, in words. -/
def message : RecordError → String
  | .objectField key => s!"field '{key}': {objectRefusalMessage}"
  | .notAnObject got => s!"expected a JSON object, got {got.text}"
  | .own cause => cause.message

/-- The fault as a failure of an operation: what the caller's own code answers is handed on as it
is. -/
def toError : RecordError → Error
  | .own cause => cause
  | e => .validation e.message

end RecordError

/-- The values of the members of a JSON object, put in one after the other. -/
def recordOfMembers : Record → List (String × Json) → Except RecordError Record
  | r, [] => .ok r
  | r, (key, j) :: members =>
    match Value.ofJson? j with
    | none => .error (.objectField key)
    | some value => recordOfMembers (r.set key value) members

/-- The record of a JSON object. -/
def Record.ofJson : Json → Except RecordError Record
  | .object members => recordOfMembers .empty members
  | other => .error (.notAnObject other)

/-- What may be passed where a record is wanted. -/
inductive RecordSource where
  | record (r : Record)
  | json (j : Json)
  /-- Something of the caller's own, with its answer to the question for its record. -/
  | own (answer : Except Error Record)

/-- The record. -/
def RecordSource.toRecord : RecordSource → Except RecordError Record
  | .record r => .ok r
  | .json j => Record.ofJson j
  | .own answer => answer.mapError .own

instance : Coe Record RecordSource := ⟨.record⟩

end SqlAccess
