import SqlAccess.Statement.Fault

/-!
# Inserting statements

Several rows go into one statement.  The first row decides which columns are written and in which
order; every other row must set exactly the same columns, in any order and under any name that
normalises to them, and no row may set a column twice.  So each row becomes a list of literals in
the order of the columns (`rowLiterals`), which is what the statement holds between parentheses.

What happens to rows that are there already is said at the end: nothing, an assignment that changes
nothing (`InsertMode.ignoreDuplicates`), or the assignments of an upsert (`OnDuplicate`).
-/

namespace SqlAccess

/-! ## Rows -/

/-- The columns that names stand for, in order. -/
def statementColumns : List String → Except StatementError (List Column)
  | [] => .ok []
  | name :: names => do
    let column ← statementColumn name
    let columns ← statementColumns names
    .ok (column :: columns)

/-- Adds the entries of row number `row` to the literals `set` that it has set so far, by quoted
column name.  Only the columns named in `names` may be set, and each only once. -/
def setColumns (names : List String) (row : Nat) :
    (set : Entries String) → Entries Value → Except StatementError (Entries String)
  | set, [] => .ok set
  | set, (key, value) :: entries => do
    let column ← statementColumn key
    let name := column.quotedSql
    if !names.contains name then .error (.foreignColumn row key)
    else if set.keys.contains name then .error (.repeatedColumn row name)
    else
      let literal ← writtenValue key value
      setColumns names row (set ++ [(name, literal)]) entries

/-- The literals that are set for the columns named in `names`, in that order. -/
def literalsInOrder (row : Nat) (set : Entries String) :
    List String → Except StatementError (List String)
  | [] => .ok []
  | name :: names =>
    match set.find? name with
    | none => .error (.missingColumn row name)
    | some literal => (literalsInOrder row set names).map (literal :: ·)

/-- The literals of row number `row` in the order of `names`. -/
def rowLiterals (names : List String) (row : Nat) (record : Record) :
    Except StatementError (List String) := do
  let set ← setColumns names row [] record.entries
  literalsInOrder row set names

/-- The literals of further rows, the first of which has the number `row`. -/
def furtherRows (names : List String) :
    (row : Nat) → List RecordSource → Except StatementError (List (List String))
  | _, [] => .ok []
  | row, source :: sources => do
    let record ← statementRecord source
    let literals ← rowLiterals names row record
    let others ← furtherRows names (row + 1) sources
    .ok (literals :: others)

/-- The rows of an inserting statement: the quoted names of its columns, and for each row its
literals in the same order. -/
structure InsertRows where
  names : List String
  rows : List (List String)

/-- Lines rows up under the columns of the first. -/
def InsertRows.ofSources : List RecordSource → Except StatementError InsertRows
  | [] => .error .noRows
  | first :: others => do
    let record ← statementRecord first
    if record.isEmpty then .error .noColumns
    else
      let columns ← statementColumns record.keys
      let names := columns.map Column.quotedSql
      let literals ← rowLiterals names 0 record
      let rows ← furtherRows names 1 others
      .ok ⟨names, literals :: rows⟩

/-- Texts in parentheses with commas between them. -/
def tupleSql (texts : List String) : String :=
  "(" ++ ", ".intercalate texts ++ ")"

/-- The statement up to what is said about duplicates. -/
def InsertRows.sql (table : Ident) (rows : InsertRows) : String :=
  "INSERT INTO " ++ table.sql ++ " " ++ tupleSql rows.names ++ " VALUES " ++
    ", ".intercalate (rows.rows.map tupleSql)

/-! ## Duplicates -/

/-- What a plain insert does about rows that are there already. -/
inductive InsertMode where
  /-- Nothing: the database refuses them. -/
  | plain
  /-- They stay as they are. -/
  | ignoreDuplicates
deriving DecidableEq, Repr

/-- What an upsert changes in rows that are there already. -/
inductive OnDuplicate where
  /-- Columns are set to these values. -/
  | values (r : Record)
  /-- Columns are set to the values that were to be inserted. -/
  | columns (names : List String)

/-- The clause that says what happens to rows that are there already. -/
def onDuplicateClause (assignments : String) : String :=
  " ON DUPLICATE KEY UPDATE " ++ assignments

/-- The assignments of the entries of a record, in order. -/
def assignmentsOf : Entries Value → Except StatementError (List String)
  | [] => .ok []
  | (key, value) :: entries => do
    let column ← statementColumn key
    let literal ← writtenValue key value
    let others ← assignmentsOf entries
    .ok ((column.quotedSql ++ " = " ++ literal) :: others)

/-- The assignments of columns to the values that were to be inserted. -/
def insertedAssignments : List String → Except StatementError (List String)
  | [] => .ok []
  | name :: names => do
    let column ← statementColumn name
    let others ← insertedAssignments names
    .ok ((column.quotedSql ++ " = VALUES(" ++ column.quotedSql ++ ")") :: others)

/-- The assignments of an upsert, of which there must be one. -/
def OnDuplicate.sql (onDuplicate : OnDuplicate) : Except StatementError String := do
  let assignments ← match onDuplicate with
    | .values r => assignmentsOf r.entries
    | .columns names => insertedAssignments names
  if assignments.isEmpty then .error .noDuplicateColumns
  else .ok (", ".intercalate assignments)

/-! ## Statements -/

namespace Statement

/-- The statement that inserts rows. -/
def insert (table : Ident) (rows : List RecordSource) (mode : InsertMode) :
    Except StatementError String := do
  let rows ← InsertRows.ofSources rows
  match mode with
  | .plain => .ok (rows.sql table)
  | .ignoreDuplicates =>
    let first := rows.names.headD ""
    .ok (rows.sql table ++ onDuplicateClause (first ++ " = " ++ first))

/-- The statement that inserts one row. -/
def insertOne (table : Ident) (row : RecordSource) (mode : InsertMode) :
    Except StatementError String :=
  insert table [row] mode

/-- The statement that inserts rows or changes those that are there already. -/
def upsertBulk (table : Ident) (rows : List RecordSource) (onDuplicate : OnDuplicate) :
    Except StatementError String := do
  let rows ← InsertRows.ofSources rows
  let assignments ← onDuplicate.sql
  .ok (rows.sql table ++ onDuplicateClause assignments)

/-- The statement that inserts one row or changes the one that is there already. -/
def upsert (table : Ident) (row : RecordSource) (onDuplicate : OnDuplicate) :
    Except StatementError String :=
  upsertBulk table [row] onDuplicate

end Statement

end SqlAccess
