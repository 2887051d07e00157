import SqlAccess.Driver.Rows
import SqlAccess.Reply

/-!
# Drivers

A driver owns a pool of connections to one server and carries statements out.  It knows nothing of
kinds of statements and of routing.  A statement's rows can be had at once (`execute`) or one by one
(`pollOpen`); a driver that cannot hand rows out one by one opens a statement by executing it
(`Driver.openBuffered`).

Drivers change as they are used, so every operation answers the driver that comes out of it.  How
long an operation takes is told beforehand, in microseconds.
-/

namespace SqlAccess

/-- What a router asks of a pool. -/
class Driver (δ : Type) where
  /-- The short name of the pool in the log. -/
  name : δ → String
  /-- Carries a statement out. -/
  execute : δ → String → Except Error Reply × δ
  /-- Polls for the rows of a statement to be opened, for which `polls` polls have been answered. -/
  pollOpen : δ → (sql : String) → (polls : Nat) → Poll (Except Error RowSource) × δ
  /-- Disconnects. -/
  shutdown : δ → Except Error Unit × δ
  /-- How long the next statement takes to be carried out. -/
  executionTime : δ → Nat
  /-- How long the next statement takes to be opened. -/
  openingTime : δ → Nat

/-- Opens a statement by executing it. -/
def openBuffered {δ : Type} (execute : δ → String → Except Error Reply × δ) (d : δ) (sql : String) :
    Poll (Except Error RowSource) × δ :=
  match execute d sql with
  | (.ok reply, d) => (.ready (.ok (.ofRows reply.toRows)), d)
  | (.error e, d) => (.ready (.error e), d)

end SqlAccess
