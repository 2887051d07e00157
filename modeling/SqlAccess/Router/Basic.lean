import SqlAccess.Driver.Basic
import SqlAccess.Router.Log
import SqlAccess.Sql.Classify

/-!
# Routers

A router has a pool for writing and any number of pools for reading.  A read goes to a read pool, or
to the write pool if there is none or the caller wants to see what it has just written; everything
else goes to the write pool.

Every operation but a generic query is for statements of one kind, and a statement of another kind
is refused before anything is sent.  If the driver fails, the cause is logged, and the caller is
told only which operation has failed.

With several read pools and `ReadBalance.roundRobin` the pools take turns.  A read takes its turn
before its statement is looked at.

An operation answers an `Outcome`: its result, the router that comes out of it, and what was logged.
-/

namespace SqlAccess

variable {δ : Type}

/-- One of the pools of a router. -/
inductive PoolRef where
  | write
  /-- The read pool of this number. -/
  | read (index : Nat)
deriving DecidableEq, Repr

/-- A router over drivers. -/
structure Router (δ : Type) where
  write : δ
  reads : List δ
  /-- How many turns the read pools have taken, as far as a word can count them. -/
  turns : UInt64
  options : RouterOptions
  /-- How many microseconds have passed. -/
  clock : Nat

/-- What comes of an operation. -/
structure Outcome (δ α : Type) where
  result : α
  router : Router δ
  events : List LogEvent

namespace Outcome

/-- An outcome without any effect. -/
def pure {α : Type} (a : α) (r : Router δ) : Outcome δ α := ⟨a, r, []⟩

/-- The outcome with another result. -/
def map {α β : Type} (f : α → β) (o : Outcome δ α) : Outcome δ β :=
  ⟨f o.result, o.router, o.events⟩

/-- What comes of a second operation after a first. -/
def andThen {α β : Type} (o : Outcome δ α) (f : α → Router δ → Outcome δ β) : Outcome δ β :=
  let next := f o.result o.router
  ⟨next.result, next.router, o.events ++ next.events⟩

/-- What comes of a second operation after a first one that may fail. -/
def andThenOk {α β : Type} (o : Outcome δ (Except Error α))
    (f : α → Router δ → Outcome δ (Except Error β)) : Outcome δ (Except Error β) :=
  o.andThen fun result r =>
    match result with
    | .ok a => f a r
    | .error e => .pure (.error e) r

end Outcome

namespace Router

/-! ## Pools -/

/-- A router that has done nothing yet. -/
def ofDrivers (write : δ) (reads : List δ) (options : RouterOptions) : Router δ :=
  ⟨write, reads, 0, options, 0⟩

/-- The driver of a pool.  A read pool that there is not is the write pool. -/
def driver (r : Router δ) : PoolRef → δ
  | .write => r.write
  | .read index => r.reads.getD index r.write

/-- The router with another driver of a pool. -/
def setDriver (r : Router δ) (pool : PoolRef) (d : δ) : Router δ :=
  match pool with
  | .write => { r with write := d }
  | .read index => { r with reads := r.reads.set index d }

/-- All drivers, the one of the write pool first. -/
def drivers (r : Router δ) : List δ := r.write :: r.reads

/-- The router some time later. -/
def later (r : Router δ) (time : Nat) : Router δ :=
  { r with clock := r.clock + time }

/-- The pool that the next read goes to, and the router after its turn. -/
def takeTurn (r : Router δ) : PoolRef × Router δ :=
  match r.reads.length, r.options.readBalance with
  | 0, _ => (.write, r)
  | 1, _ => (.read 0, r)
  | _, .first => (.read 0, r)
  | n, .roundRobin => (.read (r.turns.toNat % n), { r with turns := r.turns + 1 })

variable [Driver δ]

/-- The pool whose driver has a name, the first if there are several. -/
def poolNamed? (r : Router δ) (name : String) : Option PoolRef :=
  if Driver.name r.write = name then some .write
  else (r.reads.findIdx? fun d => Driver.name d = name).map .read

/-- The event of a router that is ready. -/
def readyEvent (r : Router δ) : LogEvent :=
  .routerReady (Driver.name r.write) r.reads.length r.options.readBalance

/-- The router as messages show it. -/
def shown (r : Router δ) : String :=
  Text.shownStructure "Router" [
    ("write", Text.quoted (Driver.name r.write)),
    ("reads", Text.shownList (r.reads.map fun d => Text.quoted (Driver.name d))),
    ("options", r.options.shown)]

/-! ## Sending statements -/

/-- Why an operation is not for a statement. -/
def refusal? (op : Operation) (sql : String) : Option Error :=
  match op.kind? with
  | none => none
  | some kind =>
    match Sql.validate sql kind with
    | .ok _ => none
    | .error e => some e

/-- Sends a statement to a pool, whatever its kind. -/
def send (op : Operation) (pool : PoolRef) (sql : String) (r : Router δ) :
    Outcome δ (Except Error Reply) :=
  let d := r.driver pool
  let name := Driver.name d
  let logged := r.options.logged sql
  let time := Driver.executionTime d
  let slow := r.options.slowReport op name sql time
  match Driver.execute d sql with
  | (.ok reply, d) =>
    ⟨.ok reply, (r.setDriver pool d).later time, .sent op name logged :: slow⟩
  | (.error e, d) =>
    ⟨.error (.execution op), (r.setDriver pool d).later time,
      .sent op name logged :: slow ++ [.failed op name logged e]⟩

/-- Sends a statement to a pool if the operation is for it. -/
def dispatch (op : Operation) (pool : PoolRef) (sql : String) (r : Router δ) :
    Outcome δ (Except Error Reply) :=
  match refusal? op sql with
  | some e => ⟨.error e, r, [.refused op (r.options.logged sql) e]⟩
  | none => r.send op pool sql

/-! ## Reads -/

/-- Selects rows in a pool. -/
def selectIn (pool : PoolRef) (extent : Extent) (sql : String) (r : Router δ) :
    Outcome δ (Except Error Selection) :=
  (r.dispatch .select pool sql).map fun result => result.map (Reply.select extent)

/-- Selects rows in the pool whose turn it is. -/
def select (extent : Extent) (sql : String) (r : Router δ) : Outcome δ (Except Error Selection) :=
  let (pool, r) := r.takeTurn
  r.selectIn pool extent sql

/-- The first row of a select. -/
def selectOne (sql : String) (r : Router δ) : Outcome δ (Except Error (Option Record)) :=
  (r.select .one sql).map fun result => result.map Selection.first

/-- All rows of a select. -/
def selectAll (sql : String) (r : Router δ) : Outcome δ (Except Error (List Record)) :=
  (r.select .all sql).map fun result => result.map Selection.toList

/-- The first row of a select in the write pool. -/
def selectOneFromWrite (sql : String) (r : Router δ) :
    Outcome δ (Except Error (Option Record)) :=
  (r.selectIn .write .one sql).map fun result => result.map Selection.first

/-- All rows of a select in the write pool. -/
def selectAllFromWrite (sql : String) (r : Router δ) : Outcome δ (Except Error (List Record)) :=
  (r.selectIn .write .all sql).map fun result => result.map Selection.toList

/-! ## Changes -/

/-- Carries out a changing statement. -/
def change (op : Operation) (sql : String) (r : Router δ) :
    Outcome δ (Except Error Modification) :=
  (r.dispatch op .write sql).map fun result => result.map Reply.modification

/-- Inserts rows; an upsert is an insert too. -/
def insert (sql : String) (r : Router δ) : Outcome δ (Except Error Modification) :=
  r.change .insert sql

/-- Inserts rows or changes those that are there. -/
def upsert (sql : String) (r : Router δ) : Outcome δ (Except Error Modification) :=
  r.change .upsert sql

/-- Changes rows. -/
def update (sql : String) (r : Router δ) : Outcome δ (Except Error Modification) :=
  r.change .update sql

/-- Deletes rows. -/
def delete (sql : String) (r : Router δ) : Outcome δ (Except Error Modification) :=
  r.change .delete sql

/-- Carries out any statement in the write pool. -/
def query (sql : String) (r : Router δ) : Outcome δ (Except Error Reply) :=
  (r.dispatch .generic .write sql).map fun result => result.map Reply.collapse

/-! ## The end -/

/-- Shuts drivers down one after the other, whatever becomes of each: the failures in order, the
drivers afterwards, and what was logged.  A driver is shut down by `shutdown`, which may have other
effects too. -/
def shutdownAll {m : Type → Type} [Monad m] (shutdown : δ → m (Except Error Unit × δ)) :
    List δ → m (List Error × List δ × List LogEvent)
  | [] => pure ([], [], [])
  | d :: others => do
    let (result, d') ← shutdown d
    let (errors, drivers, events) ← shutdownAll shutdown others
    pure <| match result with
    | .ok _ => (errors, d' :: drivers, events)
    | .error e => (e :: errors, d' :: drivers, .poolNotShutDown (Driver.name d) e :: events)

/-- Shuts all pools down by `shutdown`, the write pool first.  The first failure is reported. -/
def shutdownBy {m : Type → Type} [Monad m] (shutdown : δ → m (Except Error Unit × δ))
    (r : Router δ) : m (Outcome δ (Except Error Unit)) := do
  let (errors, drivers, events) ← shutdownAll shutdown r.drivers
  let result := match errors with
    | [] => .ok ()
    | e :: _ => .error e
  pure ⟨result, { r with write := drivers.headD r.write, reads := drivers.tail },
    events ++ [.routerShutDown drivers.length]⟩

/-- Shuts all pools down. -/
def shutdown (r : Router δ) : Outcome δ (Except Error Unit) :=
  Id.run (r.shutdownBy fun d => pure (Driver.shutdown d))

end Router

end SqlAccess
