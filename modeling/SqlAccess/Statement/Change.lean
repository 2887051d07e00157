import SqlAccess.Statement.Insert

/-!
# Changing and deleting statements

Statements that touch rows which are there already.  Both refuse a filter that every row passes, so
that a forgotten filter cannot change or delete a whole table, and an update refuses to set nothing.
The forms that end in `One` touch one row at most.
-/

namespace SqlAccess.Statement

/-- The `WHERE` clause of a statement that must have one. -/
def requiredWhere (table : Ident) (verb : String) (filter : Filter) :
    Except StatementError String :=
  if filter.isEmpty then .error (.emptyFilter verb table.sql) else whereClause filter

/-- The statement that sets columns of rows. -/
def update (table : Ident) (filter : FilterSource) (args : RecordSource) :
    Except StatementError String := do
  let filter ← statementFilter filter
  let record ← statementRecord args
  if record.isEmpty then .error (.nothingToSet table.sql)
  else
    let assignments ← assignmentsOf record.entries
    let condition ← requiredWhere table "UPDATE" filter
    .ok ("UPDATE " ++ table.sql ++ " SET " ++ ", ".intercalate assignments ++ condition)

/-- The statement that sets columns of one row. -/
def updateOne (table : Ident) (filter : FilterSource) (args : RecordSource) :
    Except StatementError String :=
  (update table filter args).map (· ++ " LIMIT 1")

/-- The statement that deletes rows. -/
def delete (table : Ident) (filter : FilterSource) : Except StatementError String := do
  let filter ← statementFilter filter
  let condition ← requiredWhere table "DELETE" filter
  .ok ("DELETE FROM " ++ table.sql ++ condition)

/-- The statement that deletes one row. -/
def deleteOne (table : Ident) (filter : FilterSource) : Except StatementError String :=
  (delete table filter).map (· ++ " LIMIT 1")

end SqlAccess.Statement
