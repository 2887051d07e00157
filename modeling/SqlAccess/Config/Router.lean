import SqlAccess.Config.Pool
import SqlAccess.Router.Options

/-!
# Settings of a router

A router has one pool for writing and any number of pools for reading.  The settings of a read may
name several hosts and then stand for a pool each; the write pool has one host.
-/

namespace SqlAccess

/-- The settings of a router. -/
structure RouterConfig where
  write : PoolConfig
  reads : List PoolConfig
  readBalance : ReadBalance
  slowThresholdMs : Option UInt64
  maxSqlLogLength : Option UInt64

/-- What makes settings of a router unusable. -/
inductive RouterFault where
  | write (cause : PoolFault)
  | severalWriteHosts
  | read (index : Nat) (cause : PoolFault)
  | noLogLength
deriving DecidableEq, Repr

/-- The fault, in words. -/
def RouterFault.message : RouterFault → String
  | .write cause => s!"write: {cause.message}"
  | .severalWriteHosts => "write: only one host is allowed"
  | .read index cause => s!"reads[{index}]: {cause.message}"
  | .noLogLength => "max_sql_log_length must be at least 1"

namespace RouterConfig

/-- The settings of a router with a write pool only. -/
def basic (write : PoolConfig) : RouterConfig :=
  ⟨write, [], .roundRobin, none, none⟩

/-- Finds the first fault among reads, the first of which has the number `index`. -/
def validateReads : (index : Nat) → List PoolConfig → Except RouterFault Unit
  | _, [] => .ok ()
  | index, read :: reads =>
    match read.validate with
    | .error e => .error (.read index e)
    | .ok _ => validateReads (index + 1) reads

/-- Finds the first fault. -/
def validate (c : RouterConfig) : Except RouterFault Unit := do
  c.write.validate.mapError .write
  if !c.write.hosts.isEmpty then .error .severalWriteHosts
  else
    validateReads 0 c.reads
    if c.maxSqlLogLength = some 0 then .error .noLogLength else .ok ()

/-- The settings of each read pool that is meant, in order. -/
def expandedReads (c : RouterConfig) : List PoolConfig :=
  c.reads.flatMap PoolConfig.expandHosts

/-- The settings of several pools with references to the environment replaced. -/
def expandPools (env : Environment) : List PoolConfig → Except ExpansionError (List PoolConfig)
  | [] => .ok []
  | pool :: pools => do
    let pool ← pool.expand env
    let pools ← expandPools env pools
    .ok (pool :: pools)

/-- The settings with references to the environment replaced. -/
def expand (env : Environment) (c : RouterConfig) : Except ExpansionError RouterConfig := do
  let write ← c.write.expand env
  let reads ← expandPools env c.reads
  .ok { c with write, reads }

/-- How the router works. -/
def options (c : RouterConfig) : RouterOptions :=
  { readBalance := c.readBalance
    slowThreshold := c.slowThresholdMs
    maxSqlLogLength := some (c.maxSqlLogLength.getD RouterOptions.defaultMaxSqlLogLength) }

end RouterConfig

end SqlAccess
