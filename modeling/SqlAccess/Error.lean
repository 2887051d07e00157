import SqlAccess.Sql.Kind

/-!
# What can go wrong

Every operation of the library that fails does so with an `Error`.  Its constructors are the kinds
of failure a caller tells apart: a configuration that cannot be used, an argument that cannot be
turned into SQL, a statement of the wrong kind, a statement that the server refused, a failure below
the level of statements, a column that does not hold what was asked for, data that does not fit a
type, and whatever a caller's own code reports.
-/

namespace SqlAccess

/-- A failure of an operation. -/
inductive Error where
  | config (text : String)
  | validation (text : String)
  /-- The statement is not of the kind that the operation is for. -/
  | statementKind (expected : StatementKind) (sql : String)
  /-- A driver failed to carry out a statement. -/
  | execution (operation : Operation)
  | driver (text : String)
  | decode (column text : String)
  | serialization (text : String)
  | other (text : String)
deriving DecidableEq, Repr

namespace Error

/-- The failure, in words. -/
def message : Error → String
  | .config text => s!"Configuration error: {text}"
  | .validation text => s!"Validation error: {text}"
  | .statementKind expected sql => s!"Expected {expected.name} statement, got: {sql}"
  | .execution operation => s!"Error executing {operation.name} query"
  | .driver text => s!"Driver error: {text}"
  | .decode column text => s!"Decode error on column '{column}': {text}"
  | .serialization text => s!"Serialization error: {text}"
  | .other text => text

/-- The name of the kind of the failure, for programs to tell kinds apart. -/
def kindName : Error → String
  | .config _ => "config"
  | .validation _ => "validation"
  | .statementKind _ _ => "statement_kind"
  | .execution _ => "execution"
  | .driver _ => "driver"
  | .decode _ _ => "decode"
  | .serialization _ => "serialization"
  | .other _ => "other"

/-- The caller's input was refused before anything was sent. -/
def isValidation : Error → Bool
  | .validation _ => true
  | .statementKind _ _ => true
  | _ => false

/-- A driver failed to carry out a statement. -/
def isExecution : Error → Bool
  | .execution _ => true
  | _ => false

/-- The configuration cannot be used. -/
def isConfig : Error → Bool
  | .config _ => true
  | _ => false

end Error

end SqlAccess
