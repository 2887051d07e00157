import SqlAccess.Column
import SqlAccess.Json.Writer

/-!
# Order and size of a result

`QueryOptions` says in which order rows are wanted, how many of them, and how many to leave out
first.  Rows can only be left out where their number is limited, because the database knows no
offset without a limit.

Options are built step by step or read from a JSON object; there, a direction that is not understood
means ascending, and a null is as good as no member at all.
-/

namespace SqlAccess

/-! ## Direction -/

/-- The direction of an order. -/
inductive SortDirection where
  | ascending
  | descending
deriving DecidableEq, Repr

/-- The direction in SQL. -/
def SortDirection.sql : SortDirection → String
  | .ascending => "ASC"
  | .descending => "DESC"

/-- The direction that a text names: descending for `desc` in any case and with any blanks around
it, else ascending. -/
def SortDirection.ofText (s : String) : SortDirection :=
  if Text.equalsIgnoringCase (Text.trim s) "desc" then .descending else .ascending

/-! ## Options -/

/-- The wanted order and size of a result. -/
structure QueryOptions where
  sort : List (String × SortDirection)
  limit : Option UInt64
  offset : Option UInt64

namespace QueryOptions

/-- All rows in any order. -/
def none : QueryOptions := ⟨[], .none, .none⟩

/-- Adds a column to order by, after those there are. -/
def sortBy (o : QueryOptions) (column : String) (direction : SortDirection) : QueryOptions :=
  { o with sort := o.sort ++ [(column, direction)] }

/-- Limits the number of rows. -/
def limitTo (o : QueryOptions) (n : UInt64) : QueryOptions :=
  { o with limit := some n }

/-- Leaves rows out. -/
def startAt (o : QueryOptions) (n : UInt64) : QueryOptions :=
  { o with offset := some n }

/-- Whether the options make sense together: an offset needs a limit. -/
def isConsistent (o : QueryOptions) : Bool :=
  o.offset.isNone || o.limit.isSome

end QueryOptions

/-! ## From JSON -/

/-- Why a JSON value holds no options. -/
inductive OptionsError where
  | notAnObject
  | sortNotAnObject
  | notNatural (key : String) (got : Json)
  | unknownOption (key : String)

/-- The fault, in words. -/
def OptionsError.message : OptionsError → String
  | .notAnObject => "Query options must be a JSON object"
  | .sortNotAnObject => "'sort' must be an object"
  | .notNatural key got => s!"'{key}' must be a non-negative integer, got {got.text}"
  | .unknownOption key => s!"Unknown query option '{key}'"

namespace QueryOptions

/-- The direction that a JSON value names. -/
def directionOfJson : Json → SortDirection
  | .string s => .ofText s
  | _ => .ascending

/-- A number of rows, or none for null. -/
def countOfJson (key : String) : Json → Except OptionsError (Option UInt64)
  | .null => .ok .none
  | .integer n =>
    if n.val < 0 then .error (.notNatural key (.integer n))
    else .ok (some (UInt64.ofNat n.val.toNat))
  | other => .error (.notNatural key other)

/-- The options with one member of a JSON object taken over. -/
def withMember (o : QueryOptions) (key : String) (j : Json) : Except OptionsError QueryOptions :=
  if key = "sort" then
    match j with
    | .object members =>
      .ok { o with sort := o.sort ++ members.map fun (column, d) => (column, directionOfJson d) }
    | .null => .ok o
    | _ => .error .sortNotAnObject
  else if key = "limit" then (countOfJson key j).map fun limit => { o with limit }
  else if key = "offset" then (countOfJson key j).map fun offset => { o with offset }
  else .error (.unknownOption key)

/-- The options with the members of a JSON object taken over, in order. -/
def withMembers : QueryOptions → List (String × Json) → Except OptionsError QueryOptions
  | o, [] => .ok o
  | o, (key, j) :: members => do
    let o ← o.withMember key j
    withMembers o members

/-- The options of a JSON object. -/
def ofJson : Json → Except OptionsError QueryOptions
  | .object members => withMembers .none members
  | _ => .error .notAnObject

end QueryOptions

end SqlAccess
