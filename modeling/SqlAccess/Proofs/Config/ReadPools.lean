import SqlAccess.Proofs.Config.Connecting

/-!
# The pools that reads stand for

The settings of a read name hosts in two places, one host and a list of several, and a router has a
pool for reading for each.  The pools stand in the order of the settings, differ in nothing but
their host from the read that they come from, and are numbered in this order.

**A read that fills in both places loses its one host.**  Such settings are usable, and yet only the
listed hosts get a pool; nothing is said about the other one.  This is the only way in which a host
can be lost (`RouterConfig.length_namedPools`), and no pool is ever made that no read names.

* `RouterConfig.namedPools` — a pool for each host that the reads name.
* **`Router.reads_eq_namedPools_iff`** — the pools for reading that a router has, and when they are
  these.
-/

namespace SqlAccess

namespace PoolConfig

/-- The hosts that settings name: the one, unless it is left blank, and those of the list. -/
def namedHosts (c : PoolConfig) : List String :=
  if isBlankText c.host then c.hosts else c.host :: c.hosts

/-- Whether settings name hosts in both places. -/
def namesBoth (c : PoolConfig) : Bool :=
  !isBlankText c.host && !c.hosts.isEmpty

/-- The hosts that get a pool: those of the list, if there are any, and else the one. -/
def servedHosts (c : PoolConfig) : List String :=
  if c.hosts.isEmpty then [c.host] else c.hosts

/-- A pool for each host that gets one. -/
lemma expandHosts_eq (c : PoolConfig) : c.expandHosts = c.servedHosts.map c.onHost := by
  unfold expandHosts servedHosts
  split_ifs with hone
  · rw [List.map_singleton, onHost, ← List.isEmpty_iff.mp hone]
  · rfl

/-- In usable settings that name hosts in one place, all of them get a pool. -/
lemma IsUsable.servedHosts_eq {c : PoolConfig} (h : c.IsUsable) (hboth : c.namesBoth = false) :
    c.servedHosts = c.namedHosts := by
  unfold servedHosts namedHosts
  cases hhosts : c.hosts with
  | nil =>
      have hblank : isBlankText c.host = false := by simpa [hhosts] using mt h.host
      simp [hblank]
  | cons host hosts =>
      have hblank : isBlankText c.host = true := by simpa [namesBoth, hhosts] using hboth
      simp [hblank]

/-- In usable settings that name hosts in both places, one of them is lost. -/
lemma IsUsable.length_namedHosts {c : PoolConfig} (h : c.IsUsable) :
    c.namedHosts.length = c.servedHosts.length + if c.namesBoth = true then 1 else 0 := by
  split_ifs with hboth
  · obtain ⟨hblank, hhosts⟩ : isBlankText c.host = false ∧ c.hosts ≠ [] := by
      simpa [namesBoth] using hboth
    simp [namedHosts, servedHosts, hblank, hhosts]
  · rw [h.servedHosts_eq (Bool.eq_false_iff.mpr hboth), Nat.add_zero]

end PoolConfig

namespace RouterConfig

/-- A pool for each host that the reads name, in order. -/
def namedPools (c : RouterConfig) : List PoolConfig :=
  c.reads.flatMap fun read => read.namedHosts.map read.onHost

/-- A pool is missing for each read that names hosts in both places. -/
lemma length_namedPools {c : RouterConfig} (h : c.IsUsable) :
    c.namedPools.length = c.expandedReads.length + c.reads.countP PoolConfig.namesBoth := by
  have hreads := h.reads
  rw [namedPools, expandedReads]
  generalize c.reads = reads at hreads
  induction reads with
  | nil => rfl
  | cons read reads ih =>
      obtain ⟨hread, hreads⟩ := List.forall_mem_cons.mp hreads
      rw [List.flatMap_cons, List.flatMap_cons, List.length_append, List.length_append,
        ih hreads, List.countP_cons, read.expandHosts_eq, List.length_map, List.length_map,
        hread.length_namedHosts]
      omega

/-- If no read does, no pool is missing. -/
lemma expandedReads_eq {c : RouterConfig} (h : c.IsUsable)
    (hboth : ∀ read ∈ c.reads, read.namesBoth = false) : c.expandedReads = c.namedPools := by
  refine List.flatMap_congr fun read hread => ?_
  rw [read.expandHosts_eq, (h.reads read hread).servedHosts_eq (hboth read hread)]

end RouterConfig

/-- **The pools for reading.**  A router that is made of usable settings has a pool for each host in
the lists of its reads, and for the one host of each read without a list, in the order of the
settings; every pool keeps the other settings of its read.  So every host that the reads name has
its pool exactly if no read names hosts in both places, and otherwise one is missing for each read
that does. -/
theorem Router.reads_eq_namedPools_iff (bounds : PoolBounds)
    (hbounds : ∀ most, 1 ≤ most → bounds 0 most = true) (network : Network) (c : RouterConfig)
    (h : c.validate = .ok ()) :
    ∃ r, connectWithin bounds network c = .ok r ∧
      r.reads = readDrivers network 0
        (c.reads.flatMap fun read => read.servedHosts.map read.onHost) ∧
      (r.reads = readDrivers network 0 c.namedPools ↔
        ∀ read ∈ c.reads, read.namesBoth = false) ∧
      r.reads.length + c.reads.countP PoolConfig.namesBoth = c.namedPools.length := by
  have husable := RouterConfig.validate_eq_ok.mp h
  have hlength := RouterConfig.length_namedPools husable
  refine ⟨_, connectWithin_eq hbounds husable network, ?_, ⟨fun hsame => ?_, fun hboth => ?_⟩, ?_⟩
  · simp only [← PoolConfig.expandHosts_eq]
    rfl
  · have hcount := congrArg List.length hsame
    change (readDrivers network 0 c.expandedReads).length = _ at hcount
    rw [length_readDrivers, length_readDrivers, hlength, Nat.left_eq_add,
      List.countP_eq_zero] at hcount
    exact fun read hread => Bool.eq_false_iff.mpr (hcount read hread)
  · rw [← RouterConfig.expandedReads_eq husable hboth]
    rfl
  · rw [hlength]
    exact congrArg (· + _) (length_readDrivers network 0 c.expandedReads)

/-- Of three reads that name five hosts, the first names hosts in both places, and the host that it
names by itself gets no pool. -/
theorem Router.reads_eq_namedPools_iff_of_both :
    let both := { PoolConfig.basic "a" "app" "shop" with hosts := ["b"] }
    let listed := { PoolConfig.basic "" "app" "shop" with hosts := ["c", "d"], port := 3307 }
    let one := PoolConfig.basic "e" "app" "shop"
    let c := { RouterConfig.basic (.basic "db" "app" "shop") with reads := [both, listed, one] }
    let network : Network := fun pool => .reachable (.done 0 0 pool.host)
    (∀ most, 1 ≤ most → PoolBounds.kept 0 most = true) ∧ c.validate = .ok () ∧
      ∃ r, connectWithin .kept network c = .ok r ∧
        r.reads =
          readDrivers network 0 [both.onHost "b", listed.onHost "c", listed.onHost "d", one] ∧
        r.reads.map MysqlDriver.name = ["read-0", "read-1", "read-2", "read-3"] ∧
        r.reads ≠ readDrivers network 0 c.namedPools ∧ r.reads.length + 1 = c.namedPools.length := by
  intro both listed one c network
  have hvalid : c.validate = .ok () := by decide +kernel
  obtain ⟨r, hr, hreads, hiff, hlength⟩ :=
    reads_eq_namedPools_iff .kept PoolBounds.kept_zero network c hvalid
  have hcount : c.reads.countP PoolConfig.namesBoth = 1 := by decide +kernel
  refine ⟨PoolBounds.kept_zero, hvalid, r, hr, hreads, ?_, fun hsame => ?_, hcount ▸ hlength⟩
  · rw [hreads]
    decide +kernel
  · have hboth := hiff.mp hsame both List.mem_cons_self
    revert hboth
    decide +kernel

end SqlAccess
