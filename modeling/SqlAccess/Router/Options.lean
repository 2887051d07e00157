import SqlAccess.Text.Shown
import SqlAccess.Text.Ascii

/-!
# How a router works

A router spreads reads over its read pools in one of two ways, reports statements that take longer
than a threshold, and cuts statements to a length in its log.
-/

namespace SqlAccess

/-- How reads are spread over the read pools. -/
inductive ReadBalance where
  /-- One pool after the other, a statement each. -/
  | roundRobin
  /-- The first pool always. -/
  | first
deriving DecidableEq, Repr

namespace ReadBalance

/-- All ways of spreading. -/
def all : List ReadBalance := [.roundRobin, .first]

/-- The name that settings use. -/
def key : ReadBalance → String
  | .roundRobin => "round_robin"
  | .first => "first"

/-- The way that settings name. -/
def ofKey? (key : String) : Option ReadBalance :=
  all.find? fun balance => balance.key = key

/-- The name that messages use. -/
def shown : ReadBalance → String
  | .roundRobin => "RoundRobin"
  | .first => "First"

end ReadBalance

/-- How a router works. -/
structure RouterOptions where
  readBalance : ReadBalance
  /-- Statements that take more milliseconds than these are reported. -/
  slowThreshold : Option UInt64
  /-- How many bytes of a statement are logged, if not all. -/
  maxSqlLogLength : Option UInt64
deriving DecidableEq, Repr

namespace RouterOptions

/-- How many bytes of a statement are logged if nothing is said about it. -/
def defaultMaxSqlLogLength : UInt64 := 200

/-- How a router works about which nothing is said. -/
def default : RouterOptions :=
  ⟨.roundRobin, none, some defaultMaxSqlLogLength⟩

/-- A number of milliseconds in the largest unit that makes it at least one. -/
def shownMilliseconds (ms : Nat) : String :=
  if ms = 0 then "0ns"
  else if ms < 1000 then s!"{ms}ms"
  else
    let fraction := Text.paddedNat 3 (ms % 1000)
    let places := (fraction.reverse.dropWhile (· = '0')).reverse
    let seconds := ms / 1000
    if places.isEmpty then s!"{seconds}s" else s!"{seconds}." ++ String.ofList places ++ "s"

/-- The options as messages show them. -/
def shown (o : RouterOptions) : String :=
  let threshold := o.slowThreshold.map fun n => shownMilliseconds n.toNat
  let length := o.maxSqlLogLength.map fun n => toString n.toNat
  Text.shownStructure "RouterOptions" [
    ("read_balance", o.readBalance.shown),
    ("slow_query_threshold", Text.shownOption threshold),
    ("max_sql_log_length", Text.shownOption length)]

end RouterOptions

end SqlAccess
