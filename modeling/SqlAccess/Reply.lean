import SqlAccess.Number.Integer
import SqlAccess.Record
import SqlAccess.Text.Blank

/-!
# What a database answers

The answer to a statement is either rows or an acknowledgement.  Callers see neither as it is: a
select hands out the first row or all rows with every column name once, and a change tells how many
rows it touched.  An answer of the other kind is no failure.  An acknowledgement holds no rows, and
rows tell of no change.

How many rows an update really changed is often told only in the information text of the
acknowledgement, behind the mark `Changed:`.
-/

namespace SqlAccess

/-! ## Answers -/

/-- What a database acknowledges about a statement that returns no rows. -/
structure Ack where
  affectedRows : UInt64
  insertId : UInt64
  /-- The number of changed rows, where it is told directly. -/
  changedRows : Option UInt64
  /-- The information text. -/
  info : Option String

/-- The answer to a statement. -/
inductive Reply where
  | rows (rows : List Record)
  | ack (ack : Ack)

/-- The rows of an answer. -/
def Reply.toRows : Reply → List Record
  | .rows records => records
  | .ack _ => []

/-- The answer with every column name once in each row. -/
def Reply.collapse : Reply → Reply
  | .rows records => .rows (records.map Record.collapse)
  | .ack told => .ack told

/-! ## Selected rows -/

/-- How many rows a select hands out. -/
inductive Extent where
  | one
  | all
deriving DecidableEq, Repr

/-- The rows that a select hands out. -/
inductive Selection where
  | one (row : Option Record)
  | all (rows : List Record)

/-- The first row. -/
def Selection.first : Selection → Option Record
  | .one row => row
  | .all rows => rows.head?

/-- All rows. -/
def Selection.toList : Selection → List Record
  | .one row => row.toList
  | .all rows => rows

/-- The rows that a select hands out of an answer. -/
def Reply.select (extent : Extent) (reply : Reply) : Selection :=
  match extent with
  | .one => .one (reply.toRows.head?.map Record.collapse)
  | .all => .all (reply.toRows.map Record.collapse)

/-! ## Changes -/

/-- What a change did. -/
structure Modification where
  affectedRows : UInt64
  insertId : UInt64
  /-- The number of rows that are different now, where the database tells it. -/
  changedRows : Option UInt64
deriving DecidableEq, Repr

/-- The change that did nothing. -/
def Modification.none : Modification := ⟨0, 0, .none⟩

/-- The mark in front of the number of changed rows. -/
def changedMark : List Char := ['C', 'h', 'a', 'n', 'g', 'e', 'd', ':']

/-- The number of changed rows that an information text tells of: the digits behind the first mark,
unless there are none or they are too many. -/
def changedRowsOf? (info : String) : Option UInt64 := do
  let (_, rest) ← Text.splitAtMark? changedMark info.toList
  let digits := (Text.dropBlanks rest).takeWhile Char.isDigit
  let n ← (IntegerRange.unsigned 64).read digits |>.toOption
  some (UInt64.ofNat n.toNat)

/-- The change that an acknowledgement tells of. -/
def Ack.modification (ack : Ack) : Modification :=
  { affectedRows := ack.affectedRows
    insertId := ack.insertId
    changedRows := ack.changedRows <|> ack.info.bind changedRowsOf? }

/-- The change that an answer tells of. -/
def Reply.modification : Reply → Modification
  | .ack told => told.modification
  | .rows _ => .none

end SqlAccess
