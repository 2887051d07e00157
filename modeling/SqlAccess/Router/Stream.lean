import SqlAccess.Router.Basic

/-!
# Streams of rows

A stream hands out the rows of a select one by one, as whoever holds it polls for them.  Nothing is
sent before the first poll.  After a failure or the end of the rows a stream is over, and stays so
whatever its source would answer: it is not polled again.

* `RoutedStream` — the stream of a router, with every column name once in each row.
* `RowStream` — a stream of rows of any origin.
* `RecordStream` — a stream of rows that are mapped on their way; a row that cannot be mapped ends
  it.
-/

namespace SqlAccess

variable {δ α : Type}

/-! ## Streams of a router -/

/-- How far a stream has come. -/
inductive StreamState where
  /-- Its statement was refused, which is still to be told. -/
  | refused (cause : Error)
  /-- Its statement is being opened; `polls` polls have been answered. -/
  | opening (polls : Nat)
  | streaming (source : RowSource)
  | over

/-- A stream of a router. -/
structure RoutedStream where
  state : StreamState
  pool : PoolRef
  sql : String
  /-- When it was asked for. -/
  start : Nat
  /-- How many rows it has handed out. -/
  rows : Nat

namespace RoutedStream

/-- The stream of a statement that was refused. -/
def ofRefusal (cause : Error) : RoutedStream := ⟨.refused cause, .write, "", 0, 0⟩

/-- The stream at its end. -/
def ended (s : RoutedStream) : RoutedStream := { s with state := .over }

/-- The answer to a poll, with the stream afterwards. -/
abbrev Step := RowPoll × RoutedStream

variable [Driver δ]

/-- What comes of a failure of the source. -/
def fail (s : RoutedStream) (cause : Error) (r : Router δ) : Outcome δ Step :=
  let pool := Driver.name (r.driver s.pool)
  ⟨(.ready (some (.error (.execution .stream))), s.ended), r,
    [.streamFailed pool s.rows (r.options.logged s.sql) cause]⟩

/-- What comes of the end of the rows. -/
def finish (s : RoutedStream) (r : Router δ) : Outcome δ Step :=
  let pool := Driver.name (r.driver s.pool)
  let time := r.clock - s.start
  ⟨(.ready none, s.ended), r,
    .streamFinished pool s.rows time :: r.options.slowReport .stream pool s.sql time⟩

/-- Polls the source of the rows. -/
def pollSource (s : RoutedStream) (source : RowSource) (r : Router δ) : Outcome δ Step :=
  let (answer, source) := source.poll
  match answer with
  | .pending => .pure (.pending, { s with state := .streaming source }) r
  | .ready (some (.ok row)) =>
    .pure (.ready (some (.ok row.collapse)),
      { s with state := .streaming source, rows := s.rows + 1 }) r
  | .ready (some (.error e)) => s.fail e r
  | .ready none => s.finish r

/-- Polls for the source of the rows, and polls the source as soon as it is there. -/
def pollOpening (s : RoutedStream) (polls : Nat) (r : Router δ) : Outcome δ Step :=
  let d := r.driver s.pool
  match Driver.pollOpen d s.sql polls with
  | (.pending, d') =>
    .pure (.pending, { s with state := .opening (polls + 1) }) (r.setDriver s.pool d')
  | (.ready opened, d') =>
    let r := (r.setDriver s.pool d').later (Driver.openingTime d)
    match opened with
    | .error e => s.fail e r
    | .ok source => s.pollSource source r

/-- Polls the stream. -/
def poll (s : RoutedStream) (r : Router δ) : Outcome δ Step :=
  match s.state with
  | .over => .pure (.ready none, s) r
  | .refused e => .pure (.ready (some (.error e)), s.ended) r
  | .opening polls => s.pollOpening polls r
  | .streaming source => s.pollSource source r

end RoutedStream

/-! ## Streams of rows -/

/-- A stream of rows. -/
inductive RowStream where
  | routed (s : RoutedStream)
  /-- The rows of a source, as they are. -/
  | plain (source : RowSource)

namespace RowStream

/-- The stream that tells of a failure and nothing else. -/
def ofError (cause : Error) : RowStream := .plain (.ofItems [.error cause])

/-- The stream as messages show it. -/
def shown (_ : RowStream) : String := Text.shownPartly "RowStream" []

/-- Polls the stream. -/
def poll [Driver δ] (s : RowStream) (r : Router δ) : Outcome δ (RowPoll × RowStream) :=
  match s with
  | .routed s => (s.poll r).map fun (answer, s) => (answer, .routed s)
  | .plain source =>
    let (answer, source) := source.poll
    .pure (answer, .plain source) r

end RowStream

namespace Router

variable [Driver δ]

/-- A stream of a select in a pool. -/
def streamIn (pool : PoolRef) (sql : String) (r : Router δ) : Outcome δ RowStream :=
  match refusal? .stream sql with
  | some e =>
    ⟨.routed (.ofRefusal e), r, [.refused .stream (r.options.logged sql) e]⟩
  | none =>
    ⟨.routed ⟨.opening 0, pool, sql, r.clock, 0⟩, r,
      [.sent .stream (Driver.name (r.driver pool)) (r.options.logged sql)]⟩

/-- A stream of a select in the pool whose turn it is. -/
def stream (sql : String) (r : Router δ) : Outcome δ RowStream :=
  let (pool, r) := r.takeTurn
  r.streamIn pool sql

/-- A stream of a select in the write pool. -/
def streamFromWrite (sql : String) (r : Router δ) : Outcome δ RowStream :=
  r.streamIn .write sql

end Router

/-! ## Streams of mapped rows -/

/-- A stream of mapped rows. -/
structure RecordStream (α : Type) where
  rows : RowStream
  mapper : Record → Except Error α
  /-- Whether a failure or the end has been told. -/
  isTerminated : Bool

namespace RecordStream

/-- The stream of rows, mapped. -/
def ofRows (rows : RowStream) (mapper : Record → Except Error α) : RecordStream α :=
  ⟨rows, mapper, false⟩

/-- The answer to a poll, for the answer of the rows. -/
def answerOf (mapper : Record → Except Error α) : RowPoll → Poll (Option (Except Error α))
  | .pending => .pending
  | .ready none => .ready none
  | .ready (some row) => .ready (some (row.bind mapper))

/-- Whether an answer is the last one that tells anything. -/
def isLast : Poll (Option (Except Error α)) → Bool
  | .pending => false
  | .ready none => true
  | .ready (some (.ok _)) => false
  | .ready (some (.error _)) => true

/-- Polls the stream. -/
def poll [Driver δ] (s : RecordStream α) (r : Router δ) :
    Outcome δ (Poll (Option (Except Error α)) × RecordStream α) :=
  if s.isTerminated then .pure (.ready none, s) r
  else
    (s.rows.poll r).map fun (answer, rows) =>
      let mapped := answerOf s.mapper answer
      (mapped, { s with rows, isTerminated := isLast mapped })

end RecordStream

end SqlAccess
