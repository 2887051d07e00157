import SqlAccess.Filter.Predicate
import SqlAccess.Record

/-!
# Filters

A filter says which rows a statement is about: a condition for each of several columns, all of which
must hold.  Columns stand in the order in which they were first named, and a column has one
condition at a time.

* `Filter.put` sets the condition of a column.
* `Filter.and` adds an operator: to the operators that the column has, or in place of an equality.
* `Filter.ofJson` reads a filter from a JSON object, where a member that is an object holds
  operators and every other member asks for equality.
* `Filter.predicates` are the comparisons a filter comes down to, and `Filter.whereSql` is their
  SQL.
-/

namespace SqlAccess

/-- Conditions on columns, all of which must hold. -/
structure Filter where
  entries : Entries Condition

namespace Filter

/-! ## Building -/

/-- The filter that every row passes. -/
def empty : Filter := ⟨[]⟩

/-- Sets the condition of a column. -/
def put (f : Filter) (column : String) (condition : Condition) : Filter :=
  ⟨f.entries.put column condition⟩

/-- The condition of a column with one operator more. -/
def extended (op : Operator) (value : Value) : Option Condition → Condition
  | some (.ops ops) => .ops (ops ++ [(op, value)])
  | _ => .ops [(op, value)]

/-- Adds an operator to a column.  The operators of a column must all hold; an equality gives way.
-/
def and (f : Filter) (column : String) (op : Operator) (value : Value) : Filter :=
  f.put column (extended op value (f.entries.find? column))

/-- Asks for equality; null asks for a null column, and a list for membership. -/
def eq (f : Filter) (column : String) (value : Value) : Filter :=
  f.put column (.equals value)

/-- Asks for a null column. -/
def isNull (f : Filter) (column : String) : Filter :=
  f.put column (.equals .null)

/-- Asks for a column that is not null. -/
def isNotNull (f : Filter) (column : String) : Filter :=
  f.and column .ne .null

/-- Asks for another value; null asks for a column that is not null. -/
def ne (f : Filter) (column : String) (value : Value) : Filter :=
  f.and column .ne value

/-- Asks for more than a value. -/
def gt (f : Filter) (column : String) (value : Value) : Filter :=
  f.and column .gt value

/-- Asks for no less than a value. -/
def gte (f : Filter) (column : String) (value : Value) : Filter :=
  f.and column .gte value

/-- Asks for less than a value. -/
def lt (f : Filter) (column : String) (value : Value) : Filter :=
  f.and column .lt value

/-- Asks for no more than a value. -/
def lte (f : Filter) (column : String) (value : Value) : Filter :=
  f.and column .lte value

/-- Asks for a text that matches a pattern. -/
def like (f : Filter) (column : String) (pattern : Value) : Filter :=
  f.and column .like pattern

/-- Asks for one of several values. -/
def oneOf (f : Filter) (column : String) (values : List Value) : Filter :=
  f.and column .oneOf (.list values)

/-- Asks for none of several values. -/
def notOneOf (f : Filter) (column : String) (values : List Value) : Filter :=
  f.and column .notOneOf (.list values)

/-- Puts SQL behind a column as it is. -/
def raw (f : Filter) (column sql : String) : Filter :=
  f.and column .raw (.raw sql)

/-- Whether every row passes. -/
def isEmpty (f : Filter) : Bool := f.entries.isEmpty

/-- The number of columns with a condition. -/
def size (f : Filter) : Nat := f.entries.length

/-- The filter that asks for equality with every value of a record. -/
def ofRecord (r : Record) : Filter :=
  r.entries.foldl (fun f (column, value) => f.eq column value) empty

end Filter

/-! ## Faults -/

/-- Why something is no filter, or a filter has no SQL. -/
inductive FilterError where
  | notAnObject
  | noOperators (column : String)
  | unknownOperator (key : String)
  /-- The operand of an operator holds an object. -/
  | objectOperand (column key : String)
  /-- The value of a column is a list that holds an object. -/
  | objectValue (column : String)
  | record (cause : RecordError)
  | column (cause : ColumnError)
  | condition (cause : ConditionError)
  /-- Something of the caller's own makes no filter. -/
  | own (cause : Error)

namespace FilterError

/-- The fault, in words. -/
def message : FilterError → String
  | .notAnObject => "Filter must be a JSON object"
  | .noOperators name => s!"Operator object for '{name}' has no operators"
  | .unknownOperator key => s!"Unknown filter operator '{key}'"
  | .objectOperand name key => s!"'{name}.{key}': {objectRefusalMessage}"
  | .objectValue name => s!"'{name}': {objectRefusalMessage}"
  | .record cause => cause.message
  | .column cause => cause.message
  | .condition cause => cause.message
  | .own cause => cause.message

/-- The fault as a failure of an operation: what the caller's own code answers is handed on as it
is. -/
def toError : FilterError → Error
  | .record cause => cause.toError
  | .own cause => cause
  | e => .validation e.message

end FilterError

/-! ## From JSON -/

namespace Filter

/-- The operator and operand of a member of a JSON object. -/
def operatorOfJson (column key : String) (operand : Json) :
    Except FilterError (Operator × Value) :=
  match Operator.ofKey? key with
  | none => .error (.unknownOperator key)
  | some op =>
    match Value.ofJson? operand with
    | none => .error (.objectOperand column key)
    | some value => .ok (op, value)

/-- The operators and operands of a JSON object, in order. -/
def operatorsOfJson (column : String) :
    List (String × Json) → Except FilterError (List (Operator × Value))
  | [] => .ok []
  | (key, operand) :: members => do
    let op ← operatorOfJson column key operand
    let ops ← operatorsOfJson column members
    .ok (op :: ops)

/-- The condition that a member of a JSON object puts on its column. -/
def conditionOfJson (column : String) : Json → Except FilterError Condition
  | .object [] => .error (.noOperators column)
  | .object (member :: members) => (operatorsOfJson column (member :: members)).map .ops
  | other =>
    match Value.ofJson? other with
    | none => .error (.objectValue column)
    | some value => .ok (.equals value)

/-- Sets the conditions of the members of a JSON object, one after the other. -/
def putMembers : Filter → List (String × Json) → Except FilterError Filter
  | f, [] => .ok f
  | f, (name, j) :: members => do
    let condition ← conditionOfJson name j
    putMembers (f.put name condition) members

/-- The filter of a JSON object. -/
def ofJson : Json → Except FilterError Filter
  | .object members => putMembers empty members
  | _ => .error .notAnObject

end Filter

/-- What may be passed where a filter is wanted.  A record asks for equality with its values. -/
inductive FilterSource where
  | filter (f : Filter)
  | json (j : Json)
  | record (r : Record)
  /-- Something of the caller's own, with its answer to the question for its filter. -/
  | own (answer : Except Error Filter)

/-- The filter. -/
def FilterSource.toFilter : FilterSource → Except FilterError Filter
  | .filter f => .ok f
  | .json j => Filter.ofJson j
  | .record r => .ok (Filter.ofRecord r)
  | .own answer => answer.mapError .own

instance : Coe Filter FilterSource := ⟨.filter⟩

/-- The filter of whatever makes a record. -/
def Filter.ofSource (source : RecordSource) : Except FilterError Filter :=
  match source.toRecord with
  | .ok r => .ok (Filter.ofRecord r)
  | .error e => .error (.record e)

/-! ## SQL -/

namespace Filter

/-- The predicates of one entry. -/
def entryPredicates (name : String) (condition : Condition) :
    Except FilterError (List Predicate) := do
  let column ← (Column.normalize name).mapError .column
  (condition.predicates column).mapError .condition

/-- The predicates of several entries, entry by entry. -/
def predicatesOf : Entries Condition → Except FilterError (List (List Predicate))
  | [] => .ok []
  | (name, condition) :: entries => do
    let predicates ← entryPredicates name condition
    let others ← predicatesOf entries
    .ok (predicates :: others)

/-- The predicates of the filter, column by column. -/
def predicates (f : Filter) : Except FilterError (List (List Predicate)) :=
  predicatesOf f.entries

/-- The predicates of one column in parentheses. -/
def groupSql (predicates : List Predicate) : String :=
  "(" ++ conjunction (predicates.map Predicate.sql) ++ ")"

/-- The condition of a `WHERE` clause, unless every row passes. -/
def whereSql? (f : Filter) : Except FilterError (Option String) := do
  let groups ← f.predicates
  .ok (if groups.isEmpty then none else some (conjunction (groups.map groupSql)))

end Filter

end SqlAccess
