import SqlAccess.Record
import SqlAccess.Text.SnakeCase

/-!
# Entities

An entity is a type whose values are rows of a table.  It is described by its fields: which column a
field is stored in, how it is written as a value, and how it is read from one.

* A field is stored in the column of its own name unless its layout names another one.
* A field may be left out of the row; reading then leaves it as it is in the blank entity.
* A field may be allowed to be absent from a row that is read; it then stays as in the blank entity
  too.

The name of the table follows from the name of the type unless it is given.
-/

namespace SqlAccess

/-- How a field is stored. -/
structure FieldLayout where
  name : String
  /-- The column, if it does not have the name of the field. -/
  otherColumn : Option String
  /-- Whether the field is part of the row. -/
  isStored : Bool
  /-- Whether a row that is read may lack the column. -/
  mayBeAbsent : Bool
deriving DecidableEq, Repr

namespace FieldLayout

/-- A field that is stored in the column of its name. -/
def plain (name : String) : FieldLayout := ⟨name, none, true, false⟩

/-- The column of the field. -/
def column (f : FieldLayout) : String :=
  f.otherColumn.getD f.name

end FieldLayout

/-- A field of the type `α`. -/
structure Field (α : Type) where
  layout : FieldLayout
  write : α → Value
  /-- Sets the field to what a value holds. -/
  read : Value → α → Except ExtractError α

/-- A field with a typed content. -/
def Field.of {α β : Type} [ToValue β] [OfValue β] (layout : FieldLayout) (get : α → β)
    (set : α → β → α) : Field α where
  layout := layout
  write a := toValue (get a)
  read v a := (ofValue v).map (set a)

/-- Types whose values are rows of a table. -/
class Entity (α : Type) where
  typeName : String
  /-- The table, if its name does not follow from that of the type. -/
  otherTable : Option String
  /-- What reading starts from. -/
  blank : α
  fields : List (Field α)

namespace Entity

variable {α : Type}

/-- The table of an entity. -/
def table (α : Type) [e : Entity α] : String :=
  e.otherTable.getD (Text.snakeCase e.typeName)

/-- Sets one field to what a row holds. -/
def readField (r : Record) (f : Field α) (a : α) : Except Error α :=
  if !f.layout.isStored || (f.layout.mayBeAbsent && !r.contains f.layout.column) then .ok a
  else do
    let value ← r.require f.layout.column
    (f.read value a).mapError fun e => .decode f.layout.column e.message

/-- Sets fields to what a row holds, in order. -/
def readFields (r : Record) : List (Field α) → α → Except Error α
  | [], a => .ok a
  | f :: fields, a => do
    let a ← readField r f a
    readFields r fields a

/-- The entity of a row. -/
def ofRecord [e : Entity α] (r : Record) : Except Error α :=
  readFields r e.fields e.blank

/-- The row with fields put in, in order. -/
def writeFields (a : α) : List (Field α) → Record → Record
  | [], r => r
  | f :: fields, r =>
    writeFields a fields (if f.layout.isStored then r.set f.layout.column (f.write a) else r)

/-- The row of an entity. -/
def toRecord [e : Entity α] (a : α) : Record :=
  writeFields a e.fields .empty

end Entity

end SqlAccess
