import SqlAccess.Error
import SqlAccess.Record

/-!
# Rows that arrive one by one

Rows of a large result are handed out while they arrive.  Whoever wants the next row polls for it,
and the answer may be that it is not there yet.

A `RowSource` is where a driver's rows come from.  Nothing is assumed of it: it may fail, it may go
on after a failure or after its end, and it may never answer.  It is a sequence of answers, of which
each poll takes the next, so the number of polls that it has seen is part of it.
-/

namespace SqlAccess

/-- The answer to a poll. -/
inductive Poll (α : Type) where
  /-- Not yet; ask again. -/
  | pending
  | ready (answer : α)
deriving DecidableEq, Repr

/-- What a source answers: nothing yet, a row, a failure, or that there are no more rows. -/
abbrev RowPoll := Poll (Option (Except Error Record))

/-- A source of rows. -/
structure RowSource where
  /-- The answer to each poll. -/
  answers : Nat → RowPoll
  /-- How often the source has been polled. -/
  polls : Nat

namespace RowSource

/-- The source that answers from a list and then ends. -/
def ofItems (items : List (Except Error Record)) : RowSource :=
  ⟨fun n => .ready items[n]?, 0⟩

/-- The source of rows that are all there. -/
def ofRows (rows : List Record) : RowSource :=
  ofItems (rows.map .ok)

/-- Polls the source. -/
def poll (s : RowSource) : RowPoll × RowSource :=
  (s.answers s.polls, { s with polls := s.polls + 1 })

end RowSource

end SqlAccess
