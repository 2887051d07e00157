/-!
# Comparison operators of filters

A filter that does more than compare for equality names an operator for each comparison.  An
operator has a key, under which programs and JSON filters name it, and a token, which stands for it
in SQL.  The operator `raw` has no token: what follows the column is SQL.
-/

namespace SqlAccess

/-- An operator of a filter. -/
inductive Operator where
  | gt
  | gte
  | lt
  | lte
  | eq
  | ne
  | like
  | oneOf
  | notOneOf
  | raw
deriving DecidableEq, Repr

namespace Operator

/-- All operators, in the order in which they are listed. -/
def all : List Operator :=
  [.gt, .gte, .lt, .lte, .eq, .ne, .like, .oneOf, .notOneOf, .raw]

/-- Every operator is listed. -/
theorem mem_all (op : Operator) : op ∈ all := by
  cases op <;> simp [all]

/-- The name of an operator. -/
def key : Operator → String
  | .gt => "gt"
  | .gte => "gte"
  | .lt => "lt"
  | .lte => "lte"
  | .eq => "eq"
  | .ne => "ne"
  | .like => "like"
  | .oneOf => "in"
  | .notOneOf => "nin"
  | .raw => "raw"

/-- The operator in SQL. -/
def token : Operator → String
  | .gt => ">"
  | .gte => ">="
  | .lt => "<"
  | .lte => "<="
  | .eq => "="
  | .ne => "!="
  | .like => "LIKE"
  | .oneOf => "IN"
  | .notOneOf => "NOT IN"
  | .raw => ""

/-- Whether the operator tests membership in a list. -/
def isMembership : Operator → Bool
  | .oneOf => true
  | .notOneOf => true
  | _ => false

/-- The operator of a name; `not_in` is a second name of `nin`. -/
def ofKey? (key : String) : Option Operator :=
  if key = "not_in" then some .notOneOf else all.find? fun op => op.key == key

/-- An operator is found under its name. -/
theorem ofKey?_key (op : Operator) : ofKey? op.key = some op := by
  cases op <;> rfl

end Operator

end SqlAccess
