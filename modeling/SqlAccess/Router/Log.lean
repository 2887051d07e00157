import SqlAccess.Error
import SqlAccess.Router.Options
import SqlAccess.Text.Abbreviated

/-!
# What is logged

Everything that happens to a statement leaves an event in the log: that it was refused, that it was
sent, that it took long, that it failed.  An event has a level, a message and named fields.  Events
about statements that went as they should are kept apart from the others, so that they can be had or
not.

Statements are cut to a length when they are logged.
-/

namespace SqlAccess

/-- How much an event matters. -/
inductive LogLevel where
  | debug
  | info
  | warning
  | error
deriving DecidableEq, Repr

/-- The name of a level. -/
def LogLevel.name : LogLevel → String
  | .debug => "DEBUG"
  | .info => "INFO"
  | .warning => "WARN"
  | .error => "ERROR"

/-- An event of the log. `sql` is the statement as it is logged, `time` how many microseconds it
took. -/
inductive LogEvent where
  | poolCreated (pool host : String) (port : UInt16) (database : String) (limit : UInt64)
  | routerReady (write : String) (reads : Nat) (balance : ReadBalance)
  | refused (op : Operation) (sql : String) (cause : Error)
  | sent (op : Operation) (pool sql : String)
  | slow (op : Operation) (pool sql : String) (time : Nat)
  | failed (op : Operation) (pool sql : String) (cause : Error)
  | streamFailed (pool : String) (rows : Nat) (sql : String) (cause : Error)
  | streamFinished (pool : String) (rows time : Nat)
  | notBuilt (table : String) (cause : Error)
  | poolNotShutDown (pool : String) (cause : Error)
  | routerShutDown (pools : Nat)

namespace LogEvent

/-- How much the event matters. -/
def level : LogEvent → LogLevel
  | .poolCreated _ _ _ _ _ => .info
  | .routerReady _ _ _ => .info
  | .refused _ _ _ => .error
  | .sent _ _ _ => .debug
  | .slow _ _ _ _ => .warning
  | .failed _ _ _ _ => .error
  | .streamFailed _ _ _ _ => .error
  | .streamFinished _ _ _ => .debug
  | .notBuilt _ _ => .error
  | .poolNotShutDown _ _ => .error
  | .routerShutDown _ => .info

/-- Whether the event is about a statement that went as it should. -/
def isStatement : LogEvent → Bool
  | .sent _ _ _ => true
  | .streamFinished _ _ _ => true
  | _ => false

/-- What happened. -/
def message : LogEvent → String
  | .poolCreated _ _ _ _ _ => "mysql pool created"
  | .routerReady _ _ _ => "router ready"
  | .refused _ _ _ => "statement rejected"
  | .sent _ _ _ => "dispatch"
  | .slow _ _ _ _ => "slow query"
  | .failed _ _ _ _ => "query failed"
  | .streamFailed _ _ _ _ => "stream failed"
  | .streamFinished _ _ _ => "stream finished"
  | .notBuilt _ _ => "query build failed"
  | .poolNotShutDown _ _ => "pool shutdown failed"
  | .routerShutDown _ => "router shut down"

/-- Whole milliseconds. -/
def milliseconds (time : Nat) : String := toString (time / 1000)

/-- The fields of the event, by name. -/
def fields : LogEvent → List (String × String)
  | .poolCreated pool host port database limit =>
    [("pool", pool), ("host", host), ("port", toString port.toNat), ("database", database),
      ("connection_limit", toString limit.toNat)]
  | .routerReady write reads balance =>
    [("write", write), ("reads", toString reads), ("read_balance", balance.shown)]
  | .refused op sql cause => [("op", op.name), ("sql", sql), ("error", cause.message)]
  | .sent op pool sql => [("op", op.name), ("pool", pool), ("sql", sql)]
  | .slow op pool sql time =>
    [("op", op.name), ("pool", pool), ("elapsed_ms", milliseconds time), ("sql", sql)]
  | .failed op pool sql cause =>
    [("op", op.name), ("pool", pool), ("sql", sql), ("error", cause.message)]
  | .streamFailed pool rows sql cause =>
    [("op", Operation.stream.name), ("pool", pool), ("rows", toString rows), ("sql", sql),
      ("error", cause.message)]
  | .streamFinished pool rows time =>
    [("op", Operation.stream.name), ("pool", pool), ("rows", toString rows),
      ("elapsed_ms", milliseconds time)]
  | .notBuilt table cause => [("table", table), ("error", cause.message)]
  | .poolNotShutDown pool cause => [("pool", pool), ("error", cause.message)]
  | .routerShutDown pools => [("pools", toString pools)]

end LogEvent

namespace RouterOptions

/-- A statement as it is logged. -/
def logged (o : RouterOptions) (sql : String) : String :=
  match o.maxSqlLogLength with
  | none => sql
  | some limit => String.ofList (Text.abbreviated limit.toNat sql.toList)

/-- Whether so many microseconds are too many. -/
def isSlow (o : RouterOptions) (time : Nat) : Bool :=
  match o.slowThreshold with
  | none => false
  | some limit => limit.toNat * 1000 < time

/-- The report of a statement that took too long. -/
def slowReport (o : RouterOptions) (op : Operation) (pool sql : String) (time : Nat) :
    List LogEvent :=
  if o.isSlow time then [.slow op pool (o.logged sql) time] else []

end RouterOptions

end SqlAccess
