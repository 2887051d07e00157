import SqlAccess.Column
import SqlAccess.Filter.Operator
import SqlAccess.Literal

/-!
# Predicates

A predicate is one comparison of a column, in the form in which SQL knows it.  Between a filter and
its SQL stands this small grammar: a comparison with null is never written with an operator token, a
membership test always has members, and a membership test without members has become a constant.

A condition on a column is either equality with a value or several operators with their operands,
which must all hold.
-/

namespace SqlAccess

/-! ## Predicates and their SQL -/

/-- One comparison.  `column` is the column as SQL writes it. -/
inductive Predicate where
  /-- `column IS NULL`, or `column IS NOT NULL` if `negated`. -/
  | isNull (column : String) (negated : Bool)
  /-- The column and a null check in the caller's own spelling. -/
  | nullCheck (column check : String)
  /-- `column token operand` for an operator that compares with one operand. -/
  | compare (column : String) (op : Operator) (operand : String)
  /-- `column IN members`, or `column NOT IN members` if `negated`. -/
  | member (column : String) (negated : Bool) (members : String)
  /-- Membership in nothing: false, or true if `negated`. -/
  | noMember (negated : Bool)
  /-- The column and SQL of the caller's. -/
  | verbatim (column sql : String)
deriving DecidableEq, Repr

/-- The predicate in SQL. -/
def Predicate.sql : Predicate → String
  | .isNull column false => column ++ " IS NULL"
  | .isNull column true => column ++ " IS NOT NULL"
  | .nullCheck column check => column ++ " " ++ check
  | .compare column op operand => column ++ " " ++ op.token ++ " " ++ operand
  | .member column false members => column ++ " " ++ Operator.oneOf.token ++ " " ++ members
  | .member column true members => column ++ " " ++ Operator.notOneOf.token ++ " " ++ members
  | .noMember false => "1=0"
  | .noMember true => "1=1"
  | .verbatim column sql => column ++ " " ++ sql

/-! ## Conditions -/

/-- What a filter demands of one column. -/
inductive Condition where
  /-- Equality; null asks for a null column, and a list for membership. -/
  | equals (value : Value)
  /-- Operators with their operands, all of which must hold. -/
  | ops (ops : List (Operator × Value))

/-- Why a condition has no SQL. -/
inductive ConditionError where
  | noOperators (column : String)
  | listOperand (op : Operator)
deriving DecidableEq, Repr

/-- The fault, in words. -/
def ConditionError.message : ConditionError → String
  | .noOperators column => s!"Operator object for '{column}' has no operators"
  | .listOperand op => s!"Operator '{op.key}' does not accept a list value"

/-- Membership in the scalars of a value. -/
def membership (column : String) (negated : Bool) (value : Value) : Predicate :=
  match value.membersSql? with
  | some members => .member column negated members
  | none => .noMember negated

/-- Equality of a column with a value. -/
def equality (column : String) : Value → Predicate
  | .null => .isNull column false
  | .list items => membership column false (.list items)
  | other => .compare column .eq other.sql

/-- Whether a value asks for a null column: null itself, or the word `null` in any case. -/
def asksForNull : Value → Bool
  | .null => true
  | .text s => Text.equalsIgnoringCase s "null"
  | _ => false

/-- The comparison of a column by an operator that takes one operand. -/
def comparison (column : String) (op : Operator) (value : Value) : Predicate :=
  .compare column op value.sqlOrWord

/-- The predicate of an operator and its operand.  A list is an operand of the membership tests
only. -/
def Operator.predicate (column : String) (op : Operator) (value : Value) :
    Except ConditionError Predicate :=
  if value.isList && !op.isMembership then .error (.listOperand op)
  else
    .ok <| match op with
      | .oneOf => membership column false value
      | .notOneOf => membership column true value
      | .raw =>
        match value with
        | .text s => .verbatim column s
        | .raw s => .verbatim column s
        | other => .verbatim column other.sql
      | .eq =>
        if asksForNull value then .isNull column false
        else
          match value with
          | .text s =>
            if isNullCheck s then .nullCheck column s else comparison column .eq value
          | _ => comparison column .eq value
      | .ne => if asksForNull value then .isNull column true else comparison column .ne value
      | op => comparison column op value

/-- The predicates of operators with their operands, in order. -/
def operatorPredicates (column : String) :
    List (Operator × Value) → Except ConditionError (List Predicate)
  | [] => .ok []
  | (op, value) :: ops => do
    let predicate ← op.predicate column value
    let predicates ← operatorPredicates column ops
    .ok (predicate :: predicates)

/-- The predicates that a condition puts on a column.  Equality writes the column bare where that is
possible, and operators always write it inside backticks. -/
def Condition.predicates (column : Column) : Condition → Except ConditionError (List Predicate)
  | .equals value => .ok [equality column.sql value]
  | .ops [] => .error (.noOperators column.name)
  | .ops (op :: others) => operatorPredicates column.quotedSql (op :: others)

/-- Predicates that must all hold, in SQL. -/
def conjunction (predicates : List String) : String :=
  " AND ".intercalate predicates

end SqlAccess
