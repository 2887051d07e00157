import SqlAccess.Config.Environment
import SqlAccess.Config.TimeZone
import SqlAccess.Text.Blank
import SqlAccess.Text.Shown

/-!
# Settings of a connection pool

A pool connects to one server as one user.  The settings of a pool for reading may name several
servers instead; they then stand for as many pools that differ in nothing but their host
(`expandHosts`).
-/

namespace SqlAccess

/-- The settings of a pool. -/
structure PoolConfig where
  host : String
  /-- Several servers, in place of the one. -/
  hosts : List String
  port : UInt16
  user : String
  password : String
  database : String
  connectionLimit : UInt64
  /-- Whether a statement may hold several. -/
  multipleStatements : Bool
  timezone : Option String

/-- What makes settings unusable. -/
inductive PoolFault where
  | noHost
  | emptyHost
  | noUser
  | noDatabase
  | noConnections
  | timezone (text : String)
deriving DecidableEq, Repr

/-- The fault, in words. -/
def PoolFault.message : PoolFault → String
  | .noHost => "pool host must not be empty"
  | .emptyHost => "pool hosts must not contain empty entries"
  | .noUser => "pool user must not be empty"
  | .noDatabase => "pool database must not be empty"
  | .noConnections => "connection_limit must be at least 1"
  | .timezone text => s!"invalid timezone '{text}', expected 'local', 'Z' or '+HH:MM'"

/-- Whether a text holds nothing but blanks. -/
def isBlankText (s : String) : Bool :=
  (Text.trimList s.toList).isEmpty

namespace PoolConfig

/-- The port that is meant if none is named. -/
def defaultPort : UInt16 := 3306

/-- How many connections are kept if nothing is said about it. -/
def defaultConnectionLimit : UInt64 := 10

/-- The settings of a pool about which little is said. -/
def basic (host user database : String) : PoolConfig :=
  { host, user, database
    hosts := []
    port := defaultPort
    password := ""
    connectionLimit := defaultConnectionLimit
    multipleStatements := false
    timezone := none }

/-- Whether the time zone is understood. -/
def hasKnownZone (c : PoolConfig) : Bool :=
  c.timezone.all fun text => (SessionZone.ofText? text).isSome

/-- Finds the first fault. -/
def validate (c : PoolConfig) : Except PoolFault Unit :=
  if isBlankText c.host && c.hosts.isEmpty then .error .noHost
  else if c.hosts.any isBlankText then .error .emptyHost
  else if isBlankText c.user then .error .noUser
  else if isBlankText c.database then .error .noDatabase
  else if c.connectionLimit = 0 then .error .noConnections
  else if c.hasKnownZone then .ok ()
  else .error (.timezone (c.timezone.getD ""))

/-- The offset from UTC that sessions are set to, if any. -/
def sessionOffset? (c : PoolConfig) : Option String := do
  let text ← c.timezone
  let zone ← SessionZone.ofText? text
  zone.offset?

/-- The same settings for one server. -/
def onHost (c : PoolConfig) (host : String) : PoolConfig :=
  { c with host, hosts := [] }

/-- The settings of each pool that is meant. -/
def expandHosts (c : PoolConfig) : List PoolConfig :=
  if c.hosts.isEmpty then [c] else c.hosts.map c.onHost

/-- The settings with references to the environment replaced. -/
def expand (env : Environment) (c : PoolConfig) : Except ExpansionError PoolConfig := do
  let host ← env.expand c.host
  let hosts ← env.expandAll c.hosts
  let user ← env.expand c.user
  let password ← env.expand c.password
  let database ← env.expand c.database
  let timezone ← match c.timezone with
    | none => .ok none
    | some text => (env.expand text).map some
  .ok { c with host, hosts, user, password, database, timezone }

/-- The settings as messages show them, without the password. -/
def shown (c : PoolConfig) : String :=
  Text.shownStructure "PoolConfig" [
    ("host", Text.quoted c.host),
    ("hosts", Text.shownList (c.hosts.map Text.quoted)),
    ("port", toString c.port.toNat),
    ("user", Text.quoted c.user),
    ("password", Text.quoted "<redacted>"),
    ("database", Text.quoted c.database),
    ("connection_limit", toString c.connectionLimit.toNat),
    ("multiple_statements", Text.shownBool c.multipleStatements),
    ("timezone", Text.shownOption (c.timezone.map Text.quoted))]

end PoolConfig

end SqlAccess
