import SqlAccess.Error
import SqlAccess.Json.Basic
import SqlAccess.Number.Integer
import SqlAccess.Record

/-!
# JSON and typed data

Data that a program describes as a type can be read from JSON, and so from a row, which is a JSON
object with a member for each of its columns.  Reading is strict: a number is no text and no truth
value, and text is no number.  Members that a type does not name are ignored.

The other way a map becomes a JSON object.  The names of an object are text, so the keys of the map
must be text, or something with a plain text of its own: a whole number or a truth value.
-/

namespace SqlAccess

/-- Types that are read from JSON. -/
class OfJson (α : Type) where
  ofJson? : Json → Option α

export OfJson (ofJson?)

instance : OfJson String where
  ofJson?
    | .string s => some s
    | _ => none

instance : OfJson Bool where
  ofJson?
    | .bool b => some b
    | _ => none

instance {α : Type} [BoundedInteger α] : OfJson α where
  ofJson?
    | .integer n =>
      if (BoundedInteger.range α).Contains n.val then some (BoundedInteger.ofInt n.val) else none
    | _ => none

instance {α : Type} [OfJson α] : OfJson (Option α) where
  ofJson?
    | .null => some none
    | j => (ofJson? j).map some

namespace Json

/-- A member that must be there. -/
def member? (α : Type) [OfJson α] (j : Json) (name : String) : Option α :=
  match j with
  | .object members => do
    let inner ← Entries.find? name members
    ofJson? inner
  | _ => none

/-- A member that may be missing, or null. -/
def optionalMember? (α : Type) [OfJson α] (j : Json) (name : String) : Option (Option α) :=
  match j with
  | .object members =>
    match Entries.find? name members with
    | none => some none
    | some inner => ofJson? inner
  | _ => none

/-- The text of a key. -/
def keyText? : Json → Option String
  | .string s => some s
  | .integer n => some (String.ofList (Text.intText n.val))
  | .bool b => some (if b then "true" else "false")
  | _ => none

/-- The object of a map, a later entry taking the place of an earlier one under the same key.  A key
without a text is a failure. -/
def ofMap (entries : List (Json × Json)) : Except Error Json :=
  match entries.mapM fun (key, value) => (keyText? key).map (·, value) with
  | some members => .ok (.object (Entries.collapse members))
  | none => .error (.serialization "key must be a string")

end Json

/-- What a row holds as a value of some type. -/
def Record.decode (α : Type) [OfJson α] (r : Record) : Except Error α :=
  match (ofJson? r.toJson : Option α) with
  | some a => .ok a
  | none => .error (.serialization "the row does not have the form of the type")

/-- What an insert or an update is given as a map. -/
def RecordSource.ofMap (entries : List (Json × Json)) : Except Error RecordSource :=
  (Json.ofMap entries).map .json

end SqlAccess
