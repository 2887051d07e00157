import SqlAccess.Calendar.Reading
import SqlAccess.Record
import SqlAccess.Value.Typed

/-!
# Cells as a server sends them

A server sends the cells of a row as bytes, and for each column its type, its character set and
flags.  The type decides what a cell is:

* bits, and text in the binary character set, are bytes;
* everything else is text if it is valid text, and bytes if not;
* the text of a number, a date or a time is read, whole numbers as signed or unsigned as the column
  is.

What cannot be read stays text: the date of no day that servers allow, a number out of range, a
time.
-/

namespace SqlAccess

/-- What the type of a column says about its cells. -/
inductive CellForm where
  | integer
  | float
  | date
  | dateTime
  /-- Text, or bytes in the binary character set. -/
  | string
  | bits
  /-- Text of a kind that is not read further. -/
  | other
deriving DecidableEq, Repr

/-- The form of cells by the number of the column's type. -/
def CellForm.ofType (type : Nat) : CellForm :=
  if [1, 2, 3, 8, 9, 13].contains type then .integer
  else if [4, 5].contains type then .float
  else if type = 10 then .date
  else if [7, 12, 17, 18].contains type then .dateTime
  else if [15, 249, 250, 251, 252, 253, 254, 255].contains type then .string
  else if type = 16 then .bits
  else .other

/-- What a server says about a column. -/
structure ColumnInfo where
  name : String
  /-- The number of its type. -/
  type : Nat
  /-- The number of its character set. -/
  charset : Nat
  flags : Nat

namespace ColumnInfo

/-- The number of the character set of bytes. -/
def binaryCharset : Nat := 63

/-- The form of the column's cells. -/
def form (c : ColumnInfo) : CellForm := .ofType c.type

/-- Whether the numbers of the column are unsigned. -/
def isUnsigned (c : ColumnInfo) : Bool := c.flags.testBit 5

/-- Whether the cells are bytes whatever they hold. -/
def isBinary (c : ColumnInfo) : Bool :=
  c.form == .bits || (c.charset == binaryCharset && c.form == .string)

/-- The whole number that a cell spells. -/
def integer? (c : ColumnInfo) (text : List Char) : Option Value :=
  if c.isUnsigned then
    ((IntegerRange.unsigned 64).read text).toOption.map fun n => .uint (.ofNat n.toNat)
  else
    ((IntegerRange.signed 63).read text).toOption.map fun n => .int (.ofInt n)

/-- The value that a cell spells, as the form of the column has it. -/
def read? (c : ColumnInfo) (text : List Char) : Option Value :=
  match c.form with
  | .integer => c.integer? text
  | .float => (readFloat text).toOption.map .float
  | .date => (readDate text).toOption.map .date
  | .dateTime => (readDateTimeWith .blanks text).toOption.map .dateTime
  | _ => none

/-- The value of a cell that is not null. -/
def decodeBytes (c : ColumnInfo) (bytes : List UInt8) : Value :=
  if c.isBinary then .bytes bytes
  else
    match Text.utf8Decode bytes with
    | .error _ => .bytes bytes
    | .ok s => (c.read? s.toList).getD (.text s)

/-- The value of a cell. -/
def decode (c : ColumnInfo) : Option (List UInt8) → Value
  | none => .null
  | some bytes => c.decodeBytes bytes

end ColumnInfo

/-- The row of cells; a cell that is missing is null. -/
def decodeRow : List ColumnInfo → List (Option (List UInt8)) → Entries Value
  | [], _ => []
  | c :: columns, [] => (c.name, .null) :: decodeRow columns []
  | c :: columns, cell :: cells => (c.name, c.decode cell) :: decodeRow columns cells

end SqlAccess
