import SqlAccess.Statement.Fault

/-!
# Reading statements

The statement that reads the rows of a table and the statement that counts them.  Both take a
filter; the first also takes an order and a size, which the second has no use for.
-/

namespace SqlAccess

/-- The columns to order by, with their directions. -/
def sortKeys : List (String × SortDirection) → Except StatementError (List String)
  | [] => .ok []
  | (name, direction) :: keys => do
    let column ← statementColumn name
    let others ← sortKeys keys
    .ok ((column.sql ++ " " ++ direction.sql) :: others)

/-- The `ORDER BY` clause, empty if no order is wanted. -/
def orderClause (sort : List (String × SortDirection)) : Except StatementError String := do
  let keys ← sortKeys sort
  .ok (if keys.isEmpty then "" else " ORDER BY " ++ ", ".intercalate keys)

/-- The `LIMIT` clause, with the offset behind it, empty if all rows are wanted. -/
def limitClause (options : QueryOptions) : String :=
  match options.limit, options.offset with
  | some limit, some offset => s!" LIMIT {limit.toNat} OFFSET {offset.toNat}"
  | some limit, none => s!" LIMIT {limit.toNat}"
  | none, _ => ""

/-- Refuses options that make no sense together. -/
def checkOptions (options : QueryOptions) : Except StatementError Unit :=
  if options.isConsistent then .ok () else .error .offsetWithoutLimit

namespace Statement

/-- The statement that reads rows of a table. -/
def select (table : Ident) (filter : FilterSource) (options : QueryOptions) :
    Except StatementError String := do
  checkOptions options
  let filter ← statementFilter filter
  let condition ← whereClause filter
  let order ← orderClause options.sort
  .ok ("SELECT * FROM " ++ table.sql ++ condition ++ order ++ limitClause options)

/-- The statement that counts rows of a table. -/
def count (table : Ident) (filter : FilterSource) : Except StatementError String := do
  let filter ← statementFilter filter
  let condition ← whereClause filter
  .ok ("SELECT COUNT(*) AS count FROM " ++ table.sql ++ condition)

end Statement

end SqlAccess
