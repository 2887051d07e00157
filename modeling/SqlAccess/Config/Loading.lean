import SqlAccess.Config.Address
import SqlAccess.Config.Router
import SqlAccess.Toml.Reader

/-!
# Where the settings of a router come from

The settings of a router are a document, in which text may refer to the environment, or two
variables of the environment that hold the addresses of the pools.

In a document every setting has a name, and no other names are understood.  A pool must name its
user and its database; everything else may be left out.  A pool may also be a list, which then holds
its settings in their order.
-/

namespace SqlAccess

/-- Why settings cannot be loaded. -/
inductive LoadError where
  /-- The document is malformed, or a setting is missing, unknown or of the wrong form. -/
  | document
  | expansion (cause : ExpansionError)
  | router (cause : RouterFault)
  | unset (name : String)
  | address (cause : AddressError)

/-- The fault, in words. -/
def LoadError.message : LoadError → String
  | .document => "failed to parse router config: "
  | .expansion cause => cause.message
  | .router cause => cause.message
  | .unset name => s!"{name} is not set"
  | .address cause => cause.message

/-! ## Settings in a document -/

namespace Toml

/-- The text of a setting. -/
def text? : Toml → Option String
  | .string s => some s
  | _ => none

/-- The truth value of a setting. -/
def truth? : Toml → Option Bool
  | .bool b => some b
  | _ => none

/-- The whole number of a setting, of at most `bits` bits. -/
def natural? (bits : Nat) : Toml → Option Nat
  | .integer n => if 0 ≤ n ∧ n < Nat.pow 2 bits then some n.toNat else none
  | _ => none

/-- The texts of a setting. -/
def texts? (t : Toml) : Option (List String) := do
  let items ← t.items?
  items.mapM text?

/-- The way of spreading reads that a setting names.  A name may also stand for a table or list that
holds nothing. -/
def balance? (t : Toml) : Option ReadBalance :=
  match t with
  | .string key => ReadBalance.ofKey? key
  | t =>
    match t.members? with
    | some [(key, inner)] =>
      let holdsNothing := inner.members?.any List.isEmpty || inner.items?.any List.isEmpty
      if holdsNothing then ReadBalance.ofKey? key else none
    | _ => none

/-- The settings with the given names: those of a table by name, those of a list by place. -/
def settings? (names : List String) (t : Toml) : Option (Entries Toml) :=
  match t.items? with
  | some items => some (names.zip items)
  | none =>
    match t.members? with
    | some members => if members.keys.all names.contains then some members else none
    | none => none

/-- A setting that must be there. -/
def required {α : Type} (settings : Entries Toml) (name : String) (read? : Toml → Option α) :
    Option α := do
  let t ← settings.find? name
  read? t

/-- A setting that may be left out. -/
def optional {α : Type} (settings : Entries Toml) (name : String) (absent : α)
    (read? : Toml → Option α) : Option α :=
  match settings.find? name with
  | none => some absent
  | some t => read? t

end Toml

namespace PoolConfig

/-- The names of the settings of a pool, in their order. -/
def settingNames : List String :=
  ["host", "hosts", "port", "user", "password", "database", "connection_limit",
    "multiple_statements", "timezone"]

/-- The settings of a pool in a document. -/
def ofToml? (t : Toml) : Option PoolConfig := do
  let settings ← t.settings? settingNames
  let host ← Toml.optional settings "host" "" Toml.text?
  let hosts ← Toml.optional settings "hosts" [] Toml.texts?
  let port ← Toml.optional settings "port" defaultPort fun t => (t.natural? 16).map UInt16.ofNat
  let user ← Toml.required settings "user" Toml.text?
  let password ← Toml.optional settings "password" "" Toml.text?
  let database ← Toml.required settings "database" Toml.text?
  let connectionLimit ← Toml.optional settings "connection_limit" defaultConnectionLimit fun t =>
    (t.natural? 64).map UInt64.ofNat
  let multipleStatements ← Toml.optional settings "multiple_statements" false Toml.truth?
  let timezone ← Toml.optional settings "timezone" none fun t => t.text?.map some
  some {
    host, hosts, port, user, password, database, connectionLimit, multipleStatements, timezone }

end PoolConfig

namespace RouterConfig

/-- The names of the settings of a router, in their order. -/
def settingNames : List String :=
  ["write", "reads", "read_balance", "slow_query_threshold_ms", "max_sql_log_length"]

/-- The settings of the read pools in a document. -/
def readsOfToml? (t : Toml) : Option (List PoolConfig) := do
  let items ← t.items?
  items.mapM PoolConfig.ofToml?

/-- The settings of a router in a document. -/
def ofMembers? (members : Entries Toml) : Option RouterConfig := do
  let settings ← (Toml.inline members).settings? settingNames
  let write ← Toml.required settings "write" PoolConfig.ofToml?
  let reads ← Toml.optional settings "reads" [] readsOfToml?
  let readBalance ← Toml.optional settings "read_balance" .roundRobin Toml.balance?
  let slowThresholdMs ← Toml.optional settings "slow_query_threshold_ms" none fun t =>
    (t.natural? 64).map fun n => some (UInt64.ofNat n)
  let maxSqlLogLength ← Toml.optional settings "max_sql_log_length" none fun t =>
    (t.natural? 64).map fun n => some (UInt64.ofNat n)
  some { write, reads, readBalance, slowThresholdMs, maxSqlLogLength }

/-- The settings of a router in the text of a document, before references are replaced. -/
def ofDocument? (text : String) : Option RouterConfig := do
  let members ← Toml.read? text
  ofMembers? members

/-- The settings of a router that a document holds; they are usable. -/
def load (env : Environment) (text : String) : Except LoadError RouterConfig :=
  match ofDocument? text with
  | none => .error .document
  | some written => do
    let config ← (written.expand env).mapError .expansion
    config.validate.mapError .router
    .ok config

/-! ## Settings in the environment -/

/-- The variable that holds the address of the write pool. -/
def writeVariable : String := "SQLMAPPER_WRITE_URL"

/-- The variable that holds the addresses of the read pools. -/
def readsVariable : String := "SQLMAPPER_READ_URLS"

/-- The addresses that a text lists; empty ones do not count. -/
def listedAddresses (s : String) : List String :=
  let pieces := (Text.pieces ',' s.toList).map Text.trimList
  (pieces.filter fun piece => !piece.isEmpty).map String.ofList

/-- The settings that addresses describe, in order. -/
def poolsOfAddresses : List String → Except AddressError (List PoolConfig)
  | [] => .ok []
  | address :: addresses => do
    let pool ← PoolConfig.ofAddress address
    let pools ← poolsOfAddresses addresses
    .ok (pool :: pools)

/-- The settings of a router that the environment holds. -/
def ofEnvironment (env : Environment) : Except LoadError RouterConfig :=
  match env writeVariable with
  | none => .error (.unset writeVariable)
  | some address => do
    let write ← (PoolConfig.ofAddress address).mapError .address
    let listed := ((env readsVariable).map listedAddresses).getD []
    let reads ← (poolsOfAddresses listed).mapError .address
    .ok { basic write with reads }

end RouterConfig

end SqlAccess
