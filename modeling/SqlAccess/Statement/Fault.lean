import SqlAccess.Filter
import SqlAccess.Statement.Options

/-!
# Why a statement cannot be built

The faults that building a statement can find, in one type, so that a caller sees one kind of
refusal whichever part of the statement is at fault.  Nothing has been sent when one of them is
reported.
-/

namespace SqlAccess

/-- Why a statement cannot be built. -/
inductive StatementError where
  | offsetWithoutLimit
  | filter (cause : FilterError)
  | record (cause : RecordError)
  | column (cause : ColumnError)
  | noRows
  | noColumns
  /-- A row sets a column that the first row does not set. -/
  | foreignColumn (row : Nat) (key : String)
  /-- A row sets a column under two names. -/
  | repeatedColumn (row : Nat) (column : String)
  /-- A row does not set a column that the first row sets. -/
  | missingColumn (row : Nat) (column : String)
  | listValue (key : String)
  | noDuplicateColumns
  | nothingToSet (table : String)
  | emptyFilter (verb table : String)

namespace StatementError

/-- The fault, in words. -/
def message : StatementError → String
  | .offsetWithoutLimit => "offset requires limit"
  | .filter cause => cause.message
  | .record cause => cause.message
  | .column cause => cause.message
  | .noRows => "INSERT requires at least one row"
  | .noColumns => "INSERT requires at least one column"
  | .foreignColumn row key => s!"Row {row} has column '{key}' which is not in the first row"
  | .repeatedColumn row name => s!"Row {row} sets column {name} twice"
  | .missingColumn row name => s!"Row {row} is missing column {name}"
  | .listValue key => s!"Column '{key}': list values are only valid in filters"
  | .noDuplicateColumns => "ON DUPLICATE KEY UPDATE requires at least one column"
  | .nothingToSet table => s!"UPDATE on {table} requires at least one column to set"
  | .emptyFilter verb table => s!"{verb} on {table} requires a non-empty filter"

/-- The fault as a failure of an operation: what the caller's own code answers is handed on as it
is. -/
def toError : StatementError → Error
  | .filter cause => cause.toError
  | .record cause => cause.toError
  | e => .validation e.message

end StatementError

/-- The column that a name stands for, as part of a statement. -/
def statementColumn (name : String) : Except StatementError Column :=
  (Column.normalize name).mapError .column

/-- The filter that a source stands for, as part of a statement. -/
def statementFilter (source : FilterSource) : Except StatementError Filter :=
  source.toFilter.mapError .filter

/-- The record that a source stands for, as part of a statement. -/
def statementRecord (source : RecordSource) : Except StatementError Record :=
  source.toRecord.mapError .record

/-- A value that is written into a column; lists are no such values. -/
def writtenValue (key : String) (value : Value) : Except StatementError String :=
  if value.isList then .error (.listValue key) else .ok value.sql

/-- The `WHERE` clause of a filter, empty if every row passes. -/
def whereClause (filter : Filter) : Except StatementError String := do
  match ← filter.whereSql?.mapError .filter with
  | some condition => .ok (" WHERE " ++ condition)
  | none => .ok ""

end SqlAccess
