import SqlAccess.Config.Router
import SqlAccess.Driver.Basic
import SqlAccess.Mysql.Server
import SqlAccess.Router.Basic
import SqlAccess.Sql.Scan

/-!
# Drivers over pools of connections

A driver over a pool connects when it is first used.  A new session starts with the statements that
the settings ask for.  A statement that holds several is refused before anything is sent unless the
settings allow it, because a server would carry all of them out.

`Router.connect` makes a router of such drivers from settings.  It succeeds for all settings that
are usable, and makes one pool for every host that the reads name.
-/

namespace SqlAccess

/-- A driver over a pool. -/
structure MysqlDriver where
  name : String
  /-- Whether a statement may hold several. -/
  allowsSeveral : Bool
  /-- The statements that a session starts with. -/
  setup : List String
  server : Server
  /-- What the server has received. -/
  received : List String
  isConnected : Bool
  isShutDown : Bool

/-- Whether a pool can keep between so few and so many connections. -/
abbrev PoolBounds := (fewest most : Nat) → Bool

/-- The bounds that a pool can keep: there may be a connection, and the fewest are not too many. -/
def PoolBounds.kept : PoolBounds := fun fewest most => fewest ≤ most && 0 < most

namespace MysqlDriver

/-- The statements that a session with the given settings starts with. -/
def setupOf (c : PoolConfig) : List String :=
  match c.sessionOffset? with
  | none => []
  | some offset => ["SET time_zone = '" ++ offset ++ "'"]

/-- Why a driver cannot be made from settings. -/
inductive ConnectError where
  | pool (cause : PoolFault)
  | severalHosts
  | connectionLimit (limit : UInt64)
deriving DecidableEq, Repr

/-- The fault, in words. -/
def ConnectError.message : ConnectError → String
  | .pool cause => cause.message
  | .severalHosts =>
    "MysqlDriver takes a single host; expand \x60hosts\x60 into one driver per host"
  | .connectionLimit limit => s!"invalid connection_limit {limit.toNat}"

/-- The fault as a failure of an operation. -/
def ConnectError.toError (e : ConnectError) : Error := .config e.message

/-- A driver over a pool with the given settings, where `bounds` tells which bounds a pool can
keep.  A pool may be without connections. -/
def connectWithin (bounds : PoolBounds) (name : String) (c : PoolConfig) (server : Server) :
    Except ConnectError MysqlDriver := do
  c.validate.mapError .pool
  if !c.hosts.isEmpty then .error .severalHosts
  else if !bounds 0 c.connectionLimit.toNat then .error (.connectionLimit c.connectionLimit)
  else .ok ⟨name, c.multipleStatements, setupOf c, server, [], false, false⟩

/-- A driver over a pool with the given settings. -/
def connect (name : String) (c : PoolConfig) (server : Server) :
    Except ConnectError MysqlDriver :=
  connectWithin .kept name c server

/-- The event of a driver that was made from settings. -/
def createdEvent (name : String) (c : PoolConfig) : LogEvent :=
  .poolCreated name c.host c.port c.database c.connectionLimit

/-- A driver over the pool of another one.  It takes no statement that holds several. -/
def ofPool (name : String) (d : MysqlDriver) : MysqlDriver :=
  { d with name, allowsSeveral := false }

/-- What is said of a statement that holds several. -/
def severalText : String :=
  "multiple statements in one query but multiple_statements is disabled"

/-- Hands a statement to the server, after the statements that a new session starts with. -/
def reach (d : MysqlDriver) (sql : String) : Except Error ServerReply × MysqlDriver :=
  if !d.allowsSeveral && Sql.holdsSeveral sql then (.error (.driver severalText), d)
  else if d.isShutDown then (.error (.driver disconnectedText), d)
  else
    match d.server with
    | .unreachable => (.error (.driver unreachableText), d)
    | .reachable reply =>
      let setup := if d.isConnected then [] else d.setup
      (.ok reply, { d with received := d.received ++ setup ++ [sql], isConnected := true })

instance : Driver MysqlDriver where
  name := MysqlDriver.name
  execute d sql :=
    match d.reach sql with
    | (.ok reply, d) => (reply.toReply, d)
    | (.error e, d) => (.error e, d)
  pollOpen d sql _ :=
    match d.reach sql with
    | (.ok reply, d) => (.ready (.ok (.ofItems reply.items)), d)
    | (.error e, d) => (.ready (.error e), d)
  shutdown d := (.ok (), { d with isShutDown := true })
  executionTime _ := 1
  openingTime _ := 1

end MysqlDriver

/-! ## Routers from settings -/

/-- What stands behind the address of each pool. -/
abbrev Network := PoolConfig → Server

/-- Why a router cannot be made from settings. -/
inductive RouterConnectError where
  | router (cause : RouterFault)
  | driver (cause : MysqlDriver.ConnectError)
deriving DecidableEq, Repr

/-- The fault as a failure of an operation. -/
def RouterConnectError.toError : RouterConnectError → Error
  | .router cause => .config cause.message
  | .driver cause => cause.toError

namespace Router

/-- The name of a read pool. -/
def readName (index : Nat) : String := s!"read-{index}"

/-- The drivers of read pools, the first of which has the number `index`. -/
def connectReads (bounds : PoolBounds) (network : Network) :
    (index : Nat) → List PoolConfig → Except MysqlDriver.ConnectError (List MysqlDriver)
  | _, [] => .ok []
  | index, c :: pools => do
    let d ← MysqlDriver.connectWithin bounds (readName index) c (network c)
    let others ← connectReads bounds network (index + 1) pools
    .ok (d :: others)

/-- The events of the read pools, the first of which has the number `index`. -/
def readEvents : (index : Nat) → List PoolConfig → List LogEvent
  | _, [] => []
  | index, c :: pools => MysqlDriver.createdEvent (readName index) c :: readEvents (index + 1) pools

/-- The name of the write pool. -/
def writeName : String := "write"

/-- A router with a driver for every pool that settings ask for, where `bounds` tells which bounds a
pool can keep. -/
def connectWithin (bounds : PoolBounds) (network : Network) (c : RouterConfig) :
    Except RouterConnectError (Router MysqlDriver) := do
  c.validate.mapError .router
  let write ← (MysqlDriver.connectWithin bounds writeName c.write (network c.write)).mapError
    .driver
  let reads ← (connectReads bounds network 0 c.expandedReads).mapError .driver
  .ok (.ofDrivers write reads c.options)

/-- A router with a driver for every pool that settings ask for. -/
def connect (network : Network) (c : RouterConfig) :
    Except RouterConnectError (Router MysqlDriver) :=
  connectWithin .kept network c

/-- What is logged while a router is made from settings. -/
def connectEvents (c : RouterConfig) (r : Router MysqlDriver) : List LogEvent :=
  MysqlDriver.createdEvent writeName c.write :: readEvents 0 c.expandedReads ++ [r.readyEvent]

end Router

end SqlAccess
