import Mathlib.Algebra.GroupWithZero.Nat
import SqlAccess.Config.Loading
import SqlAccess.Mysql.Driver
import SqlAccess.Proofs.Success

/-!
# Settings that can be connected

Settings are looked at in three places: where they are loaded, where a router is made of them, and
where a driver is made for each of their pools.  The three ask for different things.  A router takes
reads that name several hosts and a driver takes one host only; addresses are looked at one by one,
and documents before or after references are replaced.

**The first look is enough.**  What a loader hands out is usable (`ofAddress_isUsable`,
`RouterConfig.ofEnvironment_isUsable`), and of usable settings every pool that is meant is usable by
itself (`PoolConfig.IsUsable.expandHosts`), so that no driver refuses its settings later.

* `PoolConfig.IsUsable`, `RouterConfig.IsUsable` — what the checks come to.
* **`Router.connect_iff_validate`** — a router is made of exactly the settings that are usable.
-/

namespace SqlAccess

/-! ## Usable settings -/

namespace PoolConfig

/-- What is asked of the settings of a pool. -/
structure IsUsable (c : PoolConfig) : Prop where
  /-- Several hosts may stand in place of the one. -/
  host : isBlankText c.host = true → c.hosts ≠ []
  hosts : ∀ host ∈ c.hosts, isBlankText host = false
  user : isBlankText c.user = false
  database : isBlankText c.database = false
  connectionLimit : c.connectionLimit ≠ 0
  timezone : c.hasKnownZone = true

/-- The check passes exactly if everything is there that is asked for. -/
lemma validate_eq_ok {c : PoolConfig} : c.validate = .ok () ↔ c.IsUsable := by
  constructor
  · intro h
    unfold validate at h
    split_ifs at h with hhost hhosts huser hdatabase hlimit hzone
    exact ⟨by simpa using hhost, by simpa using hhosts, by simpa using huser,
      by simpa using hdatabase, hlimit, hzone⟩
  · rintro ⟨hhost, hhosts, huser, hdatabase, hlimit, hzone⟩
    unfold validate
    rw [if_neg (by simpa using hhost), if_neg (by simpa using hhosts), if_neg (by simp [huser]),
      if_neg (by simp [hdatabase]), if_neg hlimit, if_pos hzone]

/-- **Every pool that is meant is usable by itself**, and is on one host. -/
lemma IsUsable.expandHosts {c pool : PoolConfig} (h : c.IsUsable) (hpool : pool ∈ c.expandHosts) :
    pool.IsUsable ∧ pool.hosts = [] := by
  unfold PoolConfig.expandHosts at hpool
  split_ifs at hpool with hone
  · obtain rfl := List.mem_singleton.mp hpool
    exact ⟨h, by simpa using hone⟩
  · obtain ⟨host, hhost, rfl⟩ := List.mem_map.mp hpool
    refine ⟨⟨fun hblank => ?_, by simp [onHost], h.user, h.database, h.connectionLimit,
      h.timezone⟩, rfl⟩
    simp [onHost, h.hosts host hhost] at hblank

/-! ### Settings in an address -/

lemma withParameter_hosts {c c' : PoolConfig} {name value : String}
    (h : c.withParameter name value = .ok c') : c'.hosts = c.hosts := by
  unfold withParameter at h
  split_ifs at h
  · split at h
    · cases h
      rfl
    · cases h
  all_goals
    cases h
    rfl

lemma withParameters_hosts {c c' : PoolConfig} {parameters : List (String × String)}
    (h : c.withParameters parameters = .ok c') : c'.hosts = c.hosts := by
  induction parameters generalizing c with
  | nil =>
      cases h
      rfl
  | cons parameter others ih =>
      obtain ⟨next, hnext, hrest⟩ := bind_eq_ok.mp h
      rw [ih hrest, withParameter_hosts hnext]

lemma ofParts_hosts {url : Url.Address} {c : PoolConfig} (h : ofParts url = .ok c) :
    c.hosts = [] := by
  unfold ofParts at h
  split at h
  · cases h
  · obtain ⟨user, -, h⟩ := bind_eq_ok.mp h
    obtain ⟨database, -, h⟩ := bind_eq_ok.mp h
    obtain ⟨password, -, h⟩ := bind_eq_ok.mp h
    cases h
    rfl

/-- **The settings that an address describes are usable**, and name one host. -/
lemma ofAddress_isUsable {address : String} {c : PoolConfig} (h : ofAddress address = .ok c) :
    c.IsUsable ∧ c.hosts = [] := by
  obtain ⟨url, -, h⟩ := bind_eq_ok.mp h
  split_ifs at h
  obtain ⟨parts, hparts, h⟩ := bind_eq_ok.mp h
  obtain ⟨config, hconfig, h⟩ := bind_eq_ok.mp h
  obtain ⟨_, hvalid, h⟩ := bind_eq_ok.mp h
  cases h
  exact ⟨validate_eq_ok.mp (mapError_eq_ok.mp hvalid),
    (withParameters_hosts hconfig).trans (ofParts_hosts hparts)⟩

end PoolConfig

namespace RouterConfig

/-- What is asked of the settings of a router. -/
structure IsUsable (c : RouterConfig) : Prop where
  write : c.write.IsUsable
  oneWriteHost : c.write.hosts = []
  reads : ∀ read ∈ c.reads, read.IsUsable
  logLength : c.maxSqlLogLength ≠ some 0

lemma validateReads_eq_ok {index : Nat} {reads : List PoolConfig} :
    validateReads index reads = .ok () ↔ ∀ read ∈ reads, read.IsUsable := by
  induction reads generalizing index with
  | nil => simp [validateReads]
  | cons read reads ih =>
      rw [validateReads, List.forall_mem_cons, ← PoolConfig.validate_eq_ok]
      cases hread : read.validate with
      | error e => simp
      | ok => simpa using ih

/-- The check passes exactly if everything is there that is asked for. -/
lemma validate_eq_ok {c : RouterConfig} : c.validate = .ok () ↔ c.IsUsable := by
  have hvalidate : c.validate = .ok () ↔
      c.write.validate = .ok () ∧ c.write.hosts = [] ∧
        validateReads 0 c.reads = .ok () ∧ c.maxSqlLogLength ≠ some 0 := by
    unfold validate
    cases c.write.validate with
    | error e => simp [bind, Except.bind, Except.mapError]
    | ok =>
        cases validateReads 0 c.reads <;> by_cases hhosts : c.write.hosts = [] <;>
          simp [bind, Except.bind, Except.mapError, hhosts]
  rw [hvalidate, PoolConfig.validate_eq_ok, validateReads_eq_ok]
  exact ⟨fun ⟨hwrite, hhosts, hreads, hlength⟩ => ⟨hwrite, hhosts, hreads, hlength⟩,
    fun ⟨hwrite, hhosts, hreads, hlength⟩ => ⟨hwrite, hhosts, hreads, hlength⟩⟩

lemma load_isUsable {env : Environment} {text : String} {c : RouterConfig}
    (h : load env text = .ok c) : c.IsUsable := by
  unfold load at h
  split at h
  · cases h
  · obtain ⟨config, -, h⟩ := bind_eq_ok.mp h
    obtain ⟨_, hvalid, h⟩ := bind_eq_ok.mp h
    cases h
    exact validate_eq_ok.mp (mapError_eq_ok.mp hvalid)

lemma poolsOfAddresses_isUsable {addresses : List String} {pools : List PoolConfig}
    (h : poolsOfAddresses addresses = .ok pools) : ∀ pool ∈ pools, pool.IsUsable := by
  induction addresses generalizing pools with
  | nil =>
      cases h
      simp
  | cons address addresses ih =>
      obtain ⟨pool, hpool, h⟩ := bind_eq_ok.mp h
      obtain ⟨others, hothers, h⟩ := bind_eq_ok.mp h
      cases h
      exact List.forall_mem_cons.mpr ⟨(PoolConfig.ofAddress_isUsable hpool).1, ih hothers⟩

/-- **The settings that the environment holds are usable**, though only their addresses are looked
at. -/
lemma ofEnvironment_isUsable {env : Environment} {c : RouterConfig}
    (h : ofEnvironment env = .ok c) : c.IsUsable := by
  unfold ofEnvironment at h
  split at h
  · cases h
  · obtain ⟨write, hwrite, h⟩ := bind_eq_ok.mp h
    obtain ⟨reads, hreads, h⟩ := bind_eq_ok.mp h
    cases h
    obtain ⟨husable, hhosts⟩ := PoolConfig.ofAddress_isUsable (mapError_eq_ok.mp hwrite)
    exact ⟨husable, hhosts, poolsOfAddresses_isUsable (mapError_eq_ok.mp hreads), nofun⟩

end RouterConfig

/-! ## Connecting -/

/-- A pool may have any number of connections from one on, and none at the start. -/
lemma PoolBounds.kept_zero (most : Nat) (h : 1 ≤ most) : PoolBounds.kept 0 most = true := by
  have hpositive : 0 < most := h
  simp [PoolBounds.kept, hpositive]

/-- The driver over a pool with the given settings that has not been used yet. -/
def MysqlDriver.unused (name : String) (c : PoolConfig) (server : Server) : MysqlDriver :=
  ⟨name, c.multipleStatements, setupOf c, server, [], false, false⟩

/-- The drivers over pools for reading, the first of which has the number `index`. -/
def Router.readDrivers (network : Network) : (index : Nat) → List PoolConfig → List MysqlDriver
  | _, [] => []
  | index, pool :: pools =>
    .unused (readName index) pool (network pool) :: readDrivers network (index + 1) pools

lemma Router.length_readDrivers (network : Network) (index : Nat) (pools : List PoolConfig) :
    (readDrivers network index pools).length = pools.length := by
  induction pools generalizing index with
  | nil => rfl
  | cons pool pools ih => rw [readDrivers, List.length_cons, List.length_cons, ih]

section Connecting

variable {bounds : PoolBounds} (hbounds : ∀ most, 1 ≤ most → bounds 0 most = true)

include hbounds

/-- A driver refuses no usable settings that name one host. -/
lemma MysqlDriver.connectWithin_eq {c : PoolConfig} (h : c.IsUsable) (hhosts : c.hosts = [])
    (name : String) (server : Server) :
    MysqlDriver.connectWithin bounds name c server = .ok (.unused name c server) := by
  have hlimit : bounds 0 c.connectionLimit.toNat = true := by
    refine hbounds _ (Nat.one_le_iff_ne_zero.mpr fun hzero => h.connectionLimit ?_)
    exact UInt64.toNat_inj.mp hzero
  rw [connectWithin, PoolConfig.validate_eq_ok.mpr h]
  simp [Except.mapError, bind, Except.bind, hhosts, hlimit, unused]

lemma MysqlDriver.exists_connectWithin {c : PoolConfig} (h : c.IsUsable) (hhosts : c.hosts = [])
    (name : String) (server : Server) :
    ∃ d, MysqlDriver.connectWithin bounds name c server = .ok d :=
  ⟨_, connectWithin_eq hbounds h hhosts name server⟩

/-- **A driver is made for each pool**, in order, with the number of its place as its name. -/
lemma Router.connectReads_eq {pools : List PoolConfig}
    (h : ∀ pool ∈ pools, pool.IsUsable ∧ pool.hosts = []) (network : Network) (index : Nat) :
    connectReads bounds network index pools = .ok (readDrivers network index pools) := by
  induction pools generalizing index with
  | nil => rfl
  | cons pool pools ih =>
      obtain ⟨⟨husable, hhosts⟩, hrest⟩ := List.forall_mem_cons.mp h
      rw [connectReads, MysqlDriver.connectWithin_eq hbounds husable hhosts]
      show Except.bind (connectReads bounds network (index + 1) pools) _ = _
      rw [ih hrest (index + 1)]
      rfl

/-- **A router is made of usable settings**, with a driver for each pool that is meant. -/
lemma Router.connectWithin_eq {c : RouterConfig} (h : c.IsUsable) (network : Network) :
    connectWithin bounds network c =
      .ok (.ofDrivers (.unused writeName c.write (network c.write))
        (readDrivers network 0 c.expandedReads) c.options) := by
  have hreads : ∀ pool ∈ c.expandedReads, pool.IsUsable ∧ pool.hosts = [] := by
    intro pool hpool
    obtain ⟨read, hread, hmem⟩ := List.mem_flatMap.mp hpool
    exact (h.reads read hread).expandHosts hmem
  rw [connectWithin, RouterConfig.validate_eq_ok.mpr h,
    MysqlDriver.connectWithin_eq hbounds h.write h.oneWriteHost,
    connectReads_eq hbounds hreads network 0]
  rfl

/-- There is a pool for reading for every host that the reads name. -/
lemma Router.exists_connectWithin {c : RouterConfig} (h : c.IsUsable) (network : Network) :
    ∃ r, connectWithin bounds network c = .ok r ∧
      r.reads.length = (c.reads.map fun read => read.expandHosts.length).sum := by
  refine ⟨_, connectWithin_eq hbounds h network, ?_⟩
  show (readDrivers network 0 c.expandedReads).length = _
  rw [length_readDrivers, RouterConfig.expandedReads, List.length_flatMap]

end Connecting

/-- **Settings that are loaded can be connected.**  Whatever a loader hands out passes the check.
A router is made of settings exactly if they pass it, provided that a pool may have any number of
connections from one on; the driver of every pool that a usable read stands for accepts its
settings, and the router has a pool for reading for each of them. -/
theorem Router.connect_iff_validate (bounds : PoolBounds)
    (hbounds : ∀ most, 1 ≤ most → bounds 0 most = true) :
    (∀ address c, PoolConfig.ofAddress address = .ok c → c.validate = .ok ()) ∧
    (∀ env text c, RouterConfig.load env text = .ok c → c.validate = .ok ()) ∧
    (∀ env c, RouterConfig.ofEnvironment env = .ok c → c.validate = .ok ()) ∧
    (∀ read : PoolConfig, read.validate = .ok () → ∀ pool ∈ read.expandHosts, ∀ name server,
      ∃ d, MysqlDriver.connectWithin bounds name pool server = .ok d) ∧
    ∀ network c,
      ((∃ r, connectWithin bounds network c = .ok r) ↔ c.validate = .ok ()) ∧
      ∀ r, connectWithin bounds network c = .ok r →
        r.reads.length = (c.reads.map fun read => read.expandHosts.length).sum := by
  refine ⟨fun address c h => ?_, fun env text c h => ?_, fun env c h => ?_, ?_, ?_⟩
  · exact PoolConfig.validate_eq_ok.mpr (PoolConfig.ofAddress_isUsable h).1
  · exact RouterConfig.validate_eq_ok.mpr (RouterConfig.load_isUsable h)
  · exact RouterConfig.validate_eq_ok.mpr (RouterConfig.ofEnvironment_isUsable h)
  · intro read hread pool hpool name server
    obtain ⟨husable, hhosts⟩ := (PoolConfig.validate_eq_ok.mp hread).expandHosts hpool
    exact MysqlDriver.exists_connectWithin hbounds husable hhosts name server
  · intro network c
    have hvalid : ∀ r, connectWithin bounds network c = .ok r → c.validate = .ok () := by
      intro r h
      obtain ⟨_, hvalid, -⟩ := bind_eq_ok.mp h
      exact mapError_eq_ok.mp hvalid
    refine ⟨⟨fun ⟨r, h⟩ => hvalid r h, fun h => ?_⟩, fun r h => ?_⟩
    · obtain ⟨r, hr, -⟩ := exists_connectWithin hbounds (RouterConfig.validate_eq_ok.mp h) network
      exact ⟨r, hr⟩
    · obtain ⟨made, hmade, hlength⟩ :=
        exists_connectWithin hbounds (RouterConfig.validate_eq_ok.mp (hvalid r h)) network
      obtain rfl : made = r := Except.ok.inj (hmade.symm.trans h)
      exact hlength

/-- Every loader hands something out, and two reads that name three hosts stand for three pools. -/
theorem Router.connect_iff_validate_of_hosts :
    let address := "mysql://app@db/shop"
    let env : Environment := fun name => if name = "SQLMAPPER_WRITE_URL" then some address else none
    let text := "write = \x7bhost = \"db\", user = \"app\", database = \"shop\"\x7d"
    let read := { PoolConfig.basic "" "app" "shop" with hosts := ["a", "b"] }
    let c := { RouterConfig.basic (.basic "db" "app" "shop") with
      reads := [read, .basic "c" "app" "shop"] }
    (∀ most, 1 ≤ most → PoolBounds.kept 0 most = true) ∧
      (∃ pool, PoolConfig.ofAddress address = .ok pool ∧ pool.validate = .ok ()) ∧
      (∃ loaded, RouterConfig.load env text = .ok loaded ∧ loaded.validate = .ok ()) ∧
      (∃ loaded, RouterConfig.ofEnvironment env = .ok loaded ∧ loaded.validate = .ok ()) ∧
      (∃ d, MysqlDriver.connectWithin .kept "read-1" (read.onHost "b") .unreachable = .ok d) ∧
      ∃ r, connectWithin .kept (fun _ => .unreachable) c = .ok r ∧ r.reads.length = 3 := by
  intro address env text read c
  have hbounds := PoolBounds.kept_zero
  obtain ⟨haddress, hload, henvironment, hread, hconnect⟩ := connect_iff_validate .kept hbounds
  obtain ⟨pool, hpool⟩ : ∃ pool, PoolConfig.ofAddress address = .ok pool :=
    exists_eq_ok (by decide +kernel)
  obtain ⟨written, hwritten⟩ : ∃ written, RouterConfig.load env text = .ok written :=
    exists_eq_ok (by decide +kernel)
  obtain ⟨listed, hlisted⟩ : ∃ listed, RouterConfig.ofEnvironment env = .ok listed :=
    exists_eq_ok (by decide +kernel)
  obtain ⟨hiff, hlength⟩ := hconnect (fun _ => .unreachable) c
  obtain ⟨r, hr⟩ := hiff.mpr (by decide +kernel)
  exact ⟨hbounds, ⟨pool, hpool, haddress _ _ hpool⟩, ⟨written, hwritten, hload _ _ _ hwritten⟩,
    ⟨listed, hlisted, henvironment _ _ hlisted⟩,
    hread read (by decide +kernel) (read.onHost "b") (by simp [read, PoolConfig.expandHosts]) _ _,
    r, hr, hlength r hr⟩

end SqlAccess
