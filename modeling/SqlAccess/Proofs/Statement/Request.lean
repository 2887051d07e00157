import SqlAccess.Proofs.Filter
import SqlAccess.Statement.Change
import SqlAccess.Statement.Select

/-!
# Requests for statements

Ten functions build statements.  `Request` has a form for each of them with the arguments that it
takes, so that what holds of every statement can be said once, of `Request.build`.

`Request.isRawFree` tells whether a request is without raw SQL: no raw operator, no raw value
outside a list, and no column that reaches into a JSON document, in any of its arguments.  Arguments
may be given as JSON; then it is what they stand for that counts.
-/

namespace SqlAccess

/-! ## Arguments without raw SQL -/

/-- Whether what a filter is made from holds no raw SQL. -/
def FilterSource.isRawFree (source : FilterSource) : Bool :=
  match source.toFilter with
  | .ok f => f.isRawFree
  | .error _ => true

/-- Whether named values hold no raw SQL and name no place inside a JSON document. -/
def Record.isRawFree (r : Record) : Bool :=
  r.entries.all fun (name, value) => !holdsArrow name && !value.isRaw

/-- Whether what a record is made from holds no raw SQL. -/
def RecordSource.isRawFree (source : RecordSource) : Bool :=
  match source.toRecord with
  | .ok r => r.isRawFree
  | .error _ => true

/-- Whether options name no place inside a JSON document. -/
def QueryOptions.isRawFree (options : QueryOptions) : Bool :=
  options.sort.all fun (name, _) => !holdsArrow name

/-- Whether the changes of an upsert hold no raw SQL. -/
def OnDuplicate.isRawFree : OnDuplicate → Bool
  | .values r => r.isRawFree
  | .columns names => names.all fun name => !holdsArrow name

/-! ## Requests -/

/-- What a statement is asked for. -/
inductive Request where
  | select (filter : FilterSource) (options : QueryOptions)
  | count (filter : FilterSource)
  | insert (rows : List RecordSource) (mode : InsertMode)
  | insertOne (row : RecordSource) (mode : InsertMode)
  | upsert (row : RecordSource) (onDuplicate : OnDuplicate)
  | upsertBulk (rows : List RecordSource) (onDuplicate : OnDuplicate)
  | update (filter : FilterSource) (args : RecordSource)
  | updateOne (filter : FilterSource) (args : RecordSource)
  | delete (filter : FilterSource)
  | deleteOne (filter : FilterSource)

namespace Request

/-- The statement that is asked for. -/
def build (table : Ident) : Request → Except StatementError String
  | .select filter options => Statement.select table filter options
  | .count filter => Statement.count table filter
  | .insert rows mode => Statement.insert table rows mode
  | .insertOne row mode => Statement.insertOne table row mode
  | .upsert row onDuplicate => Statement.upsert table row onDuplicate
  | .upsertBulk rows onDuplicate => Statement.upsertBulk table rows onDuplicate
  | .update filter args => Statement.update table filter args
  | .updateOne filter args => Statement.updateOne table filter args
  | .delete filter => Statement.delete table filter
  | .deleteOne filter => Statement.deleteOne table filter

/-- Whether none of the arguments holds raw SQL. -/
def isRawFree : Request → Bool
  | .select filter options => filter.isRawFree && options.isRawFree
  | .count filter => filter.isRawFree
  | .insert rows _ => rows.all RecordSource.isRawFree
  | .insertOne row _ => row.isRawFree
  | .upsert row onDuplicate => row.isRawFree && onDuplicate.isRawFree
  | .upsertBulk rows onDuplicate => rows.all RecordSource.isRawFree && onDuplicate.isRawFree
  | .update filter args => filter.isRawFree && args.isRawFree
  | .updateOne filter args => filter.isRawFree && args.isRawFree
  | .delete filter => filter.isRawFree
  | .deleteOne filter => filter.isRawFree

end Request

end SqlAccess
