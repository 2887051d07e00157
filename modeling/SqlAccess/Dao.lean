import SqlAccess.Entity
import SqlAccess.Router.Stream
import SqlAccess.Statement.Change
import SqlAccess.Statement.Select

/-!
# Data access objects

A data access object stands for one table.  It builds the statement of an operation, lets a router
carry it out, and maps the rows of the answer.

A statement that cannot be built is logged and reported and never reaches the router.  An error of
the mapping is reported as it is.
-/

namespace SqlAccess

variable {δ α : Type}

/-- Access to a table. -/
structure Dao (α : Type) where
  /-- The name of the table, as it was given. -/
  tableName : String
  table : Ident
  mapper : Record → Except Error α

namespace Dao

/-! ## Making one -/

/-- Access to a table whose rows a function maps. -/
def ofMapper (tableName : String) (mapper : Record → Except Error α) :
    Except IdentError (Dao α) := do
  let table ← Ident.read tableName
  .ok ⟨tableName, table, mapper⟩

/-- Access to a table whose rows are taken as they are. -/
def raw (tableName : String) : Except IdentError (Dao Record) :=
  ofMapper tableName .ok

/-- Access to a table whose rows are entities. -/
def ofEntities (α : Type) [Entity α] (tableName : String) : Except IdentError (Dao α) :=
  ofMapper tableName Entity.ofRecord

/-- Access to the table of an entity. -/
def ofEntity (α : Type) [Entity α] : Except IdentError (Dao α) :=
  ofEntities α (Entity.table α)

/-- Access to the same table whose rows are taken as they are. -/
def asRaw (d : Dao α) : Dao Record :=
  ⟨d.tableName, d.table, .ok⟩

/-- The object as messages show it, with its router. -/
def shown [Driver δ] (d : Dao α) (r : Router δ) : String :=
  Text.shownPartly "Dao" [("table", Text.quoted d.tableName), ("router", r.shown)]

/-! ## Mapping -/

/-- The row, mapped. -/
def mapOne (d : Dao α) : Option Record → Except Error (Option α)
  | none => .ok none
  | some row => (d.mapper row).map some

/-- The rows, mapped in order. -/
def mapAll (d : Dao α) : List Record → Except Error (List α)
  | [] => .ok []
  | row :: rows => do
    let a ← d.mapper row
    let others ← mapAll d rows
    .ok (a :: others)

/-- The count that a row holds, zero without a row. -/
def countOf : Option Record → Except Error UInt64
  | none => .ok 0
  | some row => row.getAs UInt64 "count"

/-! ## Statements that are built -/

/-- Goes on with a statement if it could be built. -/
def withBuilt {β : Type} (d : Dao α) (built : Except StatementError β) (r : Router δ)
    {γ : Type} (f : β → Router δ → Outcome δ (Except Error γ)) : Outcome δ (Except Error γ) :=
  match built with
  | .ok sql => f sql r
  | .error e => ⟨.error e.toError, r, [.notBuilt d.tableName e.toError]⟩

variable [Driver δ]

/-- The first row of a select that was carried out, mapped. -/
def one (d : Dao α) (o : Outcome δ (Except Error (Option Record))) :
    Outcome δ (Except Error (Option α)) :=
  o.map fun result => result.bind d.mapOne

/-- All rows of a select that was carried out, mapped. -/
def all (d : Dao α) (o : Outcome δ (Except Error (List Record))) :
    Outcome δ (Except Error (List α)) :=
  o.map fun result => result.bind d.mapAll

/-- The count of a select that was carried out. -/
def count (o : Outcome δ (Except Error (Option Record))) : Outcome δ (Except Error UInt64) :=
  o.map fun result => result.bind countOf

/-! ## Reads -/

/-- The first row that passes a filter. -/
def getOne (d : Dao α) (filter : FilterSource) (options : QueryOptions) (r : Router δ) :
    Outcome δ (Except Error (Option α)) :=
  d.withBuilt (Statement.select d.table filter options) r fun sql r => d.one (r.selectOne sql)

/-- The first row that passes a filter, from the write pool. -/
def getOneFromWrite (d : Dao α) (filter : FilterSource) (options : QueryOptions) (r : Router δ) :
    Outcome δ (Except Error (Option α)) :=
  d.withBuilt (Statement.select d.table filter options) r fun sql r =>
    d.one (r.selectOneFromWrite sql)

/-- All rows that pass a filter. -/
def getAll (d : Dao α) (filter : FilterSource) (options : QueryOptions) (r : Router δ) :
    Outcome δ (Except Error (List α)) :=
  d.withBuilt (Statement.select d.table filter options) r fun sql r => d.all (r.selectAll sql)

/-- All rows that pass a filter, from the write pool. -/
def getAllFromWrite (d : Dao α) (filter : FilterSource) (options : QueryOptions) (r : Router δ) :
    Outcome δ (Except Error (List α)) :=
  d.withBuilt (Statement.select d.table filter options) r fun sql r =>
    d.all (r.selectAllFromWrite sql)

/-- How many rows pass a filter. -/
def getCount (d : Dao α) (filter : FilterSource) (r : Router δ) :
    Outcome δ (Except Error UInt64) :=
  d.withBuilt (Statement.count d.table filter) r fun sql r => count (r.selectOne sql)

/-- How many rows pass a filter, from the write pool. -/
def getCountFromWrite (d : Dao α) (filter : FilterSource) (r : Router δ) :
    Outcome δ (Except Error UInt64) :=
  d.withBuilt (Statement.count d.table filter) r fun sql r => count (r.selectOneFromWrite sql)

/-- The first row of a given select. -/
def getOneFromSql (d : Dao α) (sql : String) (r : Router δ) : Outcome δ (Except Error (Option α)) :=
  d.one (r.selectOne sql)

/-- All rows of a given select. -/
def getAllFromSql (d : Dao α) (sql : String) (r : Router δ) : Outcome δ (Except Error (List α)) :=
  d.all (r.selectAll sql)

/-! ## Pages -/

/-- Some of the rows that pass a filter, and how many pass it in all. -/
structure Page (α : Type) where
  results : List α
  count : UInt64

/-- The statements of a page: the one that selects and the one that counts. -/
def pageStatements (d : Dao α) (filter : FilterSource) (options : QueryOptions) :
    Except StatementError (String × String) := do
  let filter ← statementFilter filter
  let select ← Statement.select d.table filter options
  let count ← Statement.count d.table filter
  .ok (select, count)

/-- The page of rows and the row with their count. -/
def pageOf (d : Dao α) (rows : List Record) (counted : Option Record) : Except Error (Page α) := do
  let results ← d.mapAll rows
  let count ← countOf counted
  .ok ⟨results, count⟩

/-- A page of the rows that pass a filter.  The rows are counted only if they could be selected. -/
def getPage (d : Dao α) (filter : FilterSource) (options : QueryOptions) (r : Router δ) :
    Outcome δ (Except Error (Page α)) :=
  d.withBuilt (d.pageStatements filter options) r fun (select, count) r =>
    (r.selectAll select).andThenOk fun rows r =>
      (r.selectOne count).map fun counted => counted.bind (d.pageOf rows)

/-- A page of the rows that pass a filter, from the write pool. -/
def getPageFromWrite (d : Dao α) (filter : FilterSource) (options : QueryOptions) (r : Router δ) :
    Outcome δ (Except Error (Page α)) :=
  d.withBuilt (d.pageStatements filter options) r fun (select, count) r =>
    (r.selectAllFromWrite select).andThenOk fun rows r =>
      (r.selectOneFromWrite count).map fun counted => counted.bind (d.pageOf rows)

/-! ## Changes -/

/-- Inserts a row. -/
def create (d : Dao α) (row : RecordSource) (mode : InsertMode) (r : Router δ) :
    Outcome δ (Except Error Modification) :=
  d.withBuilt (Statement.insertOne d.table row mode) r Router.insert

/-- Inserts rows in one statement. -/
def createBulk (d : Dao α) (rows : List RecordSource) (mode : InsertMode) (r : Router δ) :
    Outcome δ (Except Error Modification) :=
  d.withBuilt (Statement.insert d.table rows mode) r Router.insert

/-- Inserts a row or changes the one that is there. -/
def upsert (d : Dao α) (row : RecordSource) (onDuplicate : OnDuplicate) (r : Router δ) :
    Outcome δ (Except Error Modification) :=
  d.withBuilt (Statement.upsert d.table row onDuplicate) r Router.upsert

/-- Inserts rows or changes those that are there, in one statement. -/
def upsertBulk (d : Dao α) (rows : List RecordSource) (onDuplicate : OnDuplicate) (r : Router δ) :
    Outcome δ (Except Error Modification) :=
  d.withBuilt (Statement.upsertBulk d.table rows onDuplicate) r Router.upsert

/-- Changes one row that passes a filter. -/
def updateOne (d : Dao α) (filter : FilterSource) (args : RecordSource) (r : Router δ) :
    Outcome δ (Except Error Modification) :=
  d.withBuilt (Statement.updateOne d.table filter args) r Router.update

/-- Changes all rows that pass a filter. -/
def updateAll (d : Dao α) (filter : FilterSource) (args : RecordSource) (r : Router δ) :
    Outcome δ (Except Error Modification) :=
  d.withBuilt (Statement.update d.table filter args) r Router.update

/-- Deletes one row that passes a filter. -/
def deleteOne (d : Dao α) (filter : FilterSource) (r : Router δ) :
    Outcome δ (Except Error Modification) :=
  d.withBuilt (Statement.deleteOne d.table filter) r Router.delete

/-- Deletes all rows that pass a filter. -/
def deleteAll (d : Dao α) (filter : FilterSource) (r : Router δ) :
    Outcome δ (Except Error Modification) :=
  d.withBuilt (Statement.delete d.table filter) r Router.delete

/-! ## Streams -/

/-- The stream of a statement, if it could be built, through a way of opening streams. -/
def streamOf (d : Dao α) (built : Except StatementError String) (r : Router δ)
    (f : String → Router δ → Outcome δ RowStream) : Outcome δ (RecordStream α) :=
  match built with
  | .ok sql => (f sql r).map fun rows => .ofRows rows d.mapper
  | .error e =>
    ⟨.ofRows (.ofError e.toError) d.mapper, r, [.notBuilt d.tableName e.toError]⟩

/-- A stream of the rows that pass a filter. -/
def stream (d : Dao α) (filter : FilterSource) (options : QueryOptions) (r : Router δ) :
    Outcome δ (RecordStream α) :=
  d.streamOf (Statement.select d.table filter options) r Router.stream

/-- A stream of the rows that pass a filter, from the write pool. -/
def streamFromWrite (d : Dao α) (filter : FilterSource) (options : QueryOptions) (r : Router δ) :
    Outcome δ (RecordStream α) :=
  d.streamOf (Statement.select d.table filter options) r Router.streamFromWrite

/-- A stream of the rows of a given select. -/
def streamFromSql (d : Dao α) (sql : String) (r : Router δ) : Outcome δ (RecordStream α) :=
  d.streamOf (.ok sql) r Router.stream

/-- A stream of the rows of a given select, from the write pool. -/
def streamFromSqlFromWrite (d : Dao α) (sql : String) (r : Router δ) :
    Outcome δ (RecordStream α) :=
  d.streamOf (.ok sql) r Router.streamFromWrite

end Dao

end SqlAccess
