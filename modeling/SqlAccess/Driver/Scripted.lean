import SqlAccess.Driver.Basic

/-!
# Drivers that answer from a script

A scripted driver is connected to nothing.  It answers statements from a script, the next answer for
every statement, and with no rows once the script is used up.  It keeps the statements that it has
received.  After it has been shut down it refuses statements, and neither keeps them nor uses its
script up.

A scripted driver may stand for less capable drivers: one that opens statements by executing them
and knows no shutdown, and one that cannot be shut down because it is busy.
-/

namespace SqlAccess

/-- One answer of a script. -/
inductive ScriptedAnswer where
  | rows (rows : List Record)
  | ack (ack : Ack)
  | failure (text : String)
  /-- Opened, the statement hands out the rows and then fails; executed, it fails. -/
  | rowsThenFailure (rows : List Record) (text : String)

/-- What a scripted driver can do. -/
inductive Conduct where
  | full
  /-- Statements are opened by executing them, and shutting down does nothing. -/
  | buffering
  /-- Shutting down fails. -/
  | busy
deriving DecidableEq, Repr

/-- A driver that answers from a script. -/
structure ScriptedDriver where
  name : String
  script : List ScriptedAnswer
  /-- The statements received, in order. -/
  received : List String
  isShutDown : Bool
  conduct : Conduct
  /-- How many milliseconds it waits before it answers. -/
  delay : Nat

namespace ScriptedDriver

/-- A driver of full conduct with a script. -/
def ofScript (name : String) (script : List ScriptedAnswer) : ScriptedDriver :=
  ⟨name, script, [], false, .full, 0⟩

/-- The driver with one answer more in its script. -/
def push (d : ScriptedDriver) (answer : ScriptedAnswer) : ScriptedDriver :=
  { d with script := d.script ++ [answer] }

/-- The statement received last. -/
def lastStatement? (d : ScriptedDriver) : Option String :=
  d.received.getLast?

/-- The driver without memory of what it received. -/
def forget (d : ScriptedDriver) : ScriptedDriver :=
  { d with received := [] }

/-- Takes a statement and answers the next answer of the script. -/
def receive (d : ScriptedDriver) (sql : String) : Except Error ScriptedAnswer × ScriptedDriver :=
  if d.isShutDown then (.error (.driver (d.name ++ ": pool is closed")), d)
  else
    (.ok (d.script.headD (.rows [])),
      { d with script := d.script.tail, received := d.received ++ [sql] })

/-- The reply that an answer of the script gives to a statement that is executed. -/
def replyOf : ScriptedAnswer → Except Error Reply
  | .rows records => .ok (.rows records)
  | .ack told => .ok (.ack told)
  | .failure text => .error (.driver text)
  | .rowsThenFailure _ text => .error (.driver text)

/-- The rows that an answer of the script gives to a statement that is opened. -/
def sourceOf : ScriptedAnswer → Except Error RowSource
  | .rows records => .ok (.ofRows records)
  | .ack _ => .ok (.ofRows [])
  | .failure text => .error (.driver text)
  | .rowsThenFailure records text => .ok (.ofItems (records.map .ok ++ [.error (.driver text)]))

/-- Carries a statement out. -/
def execute (d : ScriptedDriver) (sql : String) : Except Error Reply × ScriptedDriver :=
  match d.receive sql with
  | (.ok answer, d) => (replyOf answer, d)
  | (.error e, d) => (.error e, d)

/-- Opens a statement that hands out its rows one by one. -/
def openRows (d : ScriptedDriver) (sql : String) :
    Poll (Except Error RowSource) × ScriptedDriver :=
  match d.receive sql with
  | (.ok answer, d) => (.ready (sourceOf answer), d)
  | (.error e, d) => (.ready (.error e), d)

/-- Opens a statement as the conduct of the driver has it. -/
def openAs (d : ScriptedDriver) (sql : String) : Poll (Except Error RowSource) × ScriptedDriver :=
  match d.conduct with
  | .buffering => openBuffered execute d sql
  | _ => d.openRows sql

/-- Disconnects, if the conduct of the driver allows it. -/
def shutdown (d : ScriptedDriver) : Except Error Unit × ScriptedDriver :=
  match d.conduct with
  | .full => (.ok (), { d with isShutDown := true })
  | .buffering => (.ok (), d)
  | .busy => (.error (.driver (d.name ++ ": busy")), d)

/-- A delay in microseconds; an answer takes one at least. -/
def timeOf (delay : Nat) : Nat := delay * 1000 + 1

instance : Driver ScriptedDriver where
  name := ScriptedDriver.name
  execute := execute
  pollOpen d sql _ := d.openAs sql
  shutdown := shutdown
  executionTime d := timeOf d.delay
  openingTime d :=
    match d.conduct with
    | .full => timeOf 0
    | _ => timeOf d.delay

end ScriptedDriver

end SqlAccess
