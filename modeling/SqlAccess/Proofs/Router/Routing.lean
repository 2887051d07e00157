import SqlAccess.Driver.Scripted
import SqlAccess.Proofs.Router.Session

/-!
# Where statements go

A session is watched through drivers that record what is sent to them.  Whatever calls and polls
have come before, **a step sends what is due and nothing else**: the statement of a call that hands
out no stream is due at once, that of a stream at its first poll.  A statement of the wrong kind is
not sent at all, and any other goes, as it is, to one pool that may serve the call.

* `Recorded` — a driver with a record.
* `CallForm.admits` — whether a pool may serve a call.
* `Session.due` — the call whose statement is due at a step, told from the steps before alone.
* `Session.Traces` — what the steps so far say of a session; every step keeps it
  (`Session.Traces.step`).
* **`Session.run_sends`** — what a step sends after any run, and that read pools only ever get
  selects.
-/

namespace SqlAccess

variable {δ : Type}

/-! ## Records -/

/-- A driver that records the statements that are sent to it, in order. -/
structure Recorded (δ : Type) where
  driver : δ
  log : List String

/-- The driver with an empty record. -/
def Recorded.fresh (d : δ) : Recorded δ := ⟨d, []⟩

/-- A stream is opened at its first poll; the polls after that only ask whether it is open. -/
instance [Driver δ] : Driver (Recorded δ) where
  name d := Driver.name d.driver
  execute d sql :=
    let (result, driver) := Driver.execute d.driver sql
    (result, ⟨driver, d.log ++ [sql]⟩)
  pollOpen d sql polls :=
    let (answer, driver) := Driver.pollOpen d.driver sql polls
    (answer, ⟨driver, if polls = 0 then d.log ++ [sql] else d.log⟩)
  shutdown d :=
    let (result, driver) := Driver.shutdown d.driver
    (result, { d with driver })
  executionTime d := Driver.executionTime d.driver
  openingTime d := Driver.openingTime d.driver

namespace Router

/-- The record of a pool, if there is the pool. -/
def log? (r : Router (Recorded δ)) : PoolRef → Option (List String)
  | .write => some r.write.log
  | .read index => r.reads[index]?.map Recorded.log

/-- What was sent between two states of a router: nothing, or one statement to one pool. -/
def Sends (before after : Router (Recorded δ)) : Option (PoolRef × String) → Prop
  | none => after.log? = before.log?
  | some (pool, sql) =>
    (∃ log, before.log? pool = some log ∧ after.log? pool = some (log ++ [sql])) ∧
      ∀ other, other ≠ pool → after.log? other = before.log? other

/-- The driver of a pool that there is has the record of the pool. -/
lemma log?_driver {r : Router (Recorded δ)} {pool : PoolRef} {log : List String}
    (h : r.log? pool = some log) : (r.driver pool).log = log := by
  cases pool with
  | write => exact Option.some.inj h
  | read index =>
      obtain ⟨d, hd, rfl⟩ := Option.map_eq_some_iff.mp h
      rw [driver, List.getD_eq_getElem?_getD, hd]
      rfl

/-- Changing the driver of a pool changes the record of the pool, if there is the pool. -/
lemma log?_setDriver (r : Router (Recorded δ)) (pool : PoolRef) (d : Recorded δ) :
    (r.setDriver pool d).log? pool = (r.log? pool).map fun _ => d.log := by
  cases pool with
  | write => rfl
  | read index =>
      show (r.reads.set index d)[index]?.map Recorded.log = _
      rw [log?, List.getElem?_set_self']
      cases r.reads[index]? <;> rfl

lemma log?_setDriver_of_ne (r : Router (Recorded δ)) {pool other : PoolRef} (d : Recorded δ)
    (h : other ≠ pool) : (r.setDriver pool d).log? other = r.log? other := by
  cases pool with
  | write =>
      cases other with
      | write => exact absurd rfl h
      | read index => rfl
  | read index =>
      cases other with
      | write => rfl
      | read other =>
          have hne : index ≠ other := fun heq => h (heq ▸ rfl)
          show (r.reads.set index d)[other]?.map Recorded.log = _
          rw [List.getElem?_set_ne hne]
          rfl

/-- A driver with a longer record has been sent a statement. -/
lemma sends_setDriver {r : Router (Recorded δ)} {pool : PoolRef} {d : Recorded δ} {sql : String}
    (hpool : (r.log? pool).isSome = true) (hd : d.log = (r.driver pool).log ++ [sql]) :
    r.Sends (r.setDriver pool d) (some (pool, sql)) := by
  obtain ⟨log, hlog⟩ := Option.isSome_iff_exists.mp hpool
  refine ⟨⟨log, hlog, ?_⟩, fun other hother => r.log?_setDriver_of_ne d hother⟩
  rw [log?_setDriver, hlog, Option.map_some, hd, log?_driver hlog]

/-- A driver with the same record has been sent nothing. -/
lemma sends_nothing {r : Router (Recorded δ)} {pool : PoolRef} {d : Recorded δ}
    (hd : d.log = (r.driver pool).log) : r.Sends (r.setDriver pool d) none := by
  funext other
  by_cases hother : other = pool
  · subst hother
    rw [log?_setDriver, hd]
    cases hlog : r.log? other with
    | none => rfl
    | some log => rw [Option.map_some, log?_driver hlog]
  · exact r.log?_setDriver_of_ne d hother

end Router

/-! ## Pools that may serve a call -/

/-- Whether a pool may serve a call of a router with so many read pools. -/
def CallForm.admits (form : CallForm) (reads : Nat) (balance : ReadBalance) : PoolRef → Prop
  | .write => form.isPoolRead = false ∨ reads = 0
  | .read index =>
    form.isPoolRead = true ∧ index < reads ∧ (reads = 1 ∨ balance = .first → index = 0)

/-- The pool that a call asks may serve it. -/
lemma CallForm.admits_turn (form : CallForm) (r : Router δ) :
    form.admits r.reads.length r.options.readBalance (form.turn r).1 := by
  rw [turn]
  split_ifs with hread
  · by_cases hturns : r.hasTurns
    · rw [Router.takeTurn_of_hasTurns hturns]
      obtain ⟨hlength, hbalance⟩ := hturns
      refine ⟨hread, Nat.mod_lt _ (by omega), ?_⟩
      rintro (hone | hfirst)
      · omega
      · simp [hbalance] at hfirst
    · rw [Router.takeTurn_of_not_hasTurns hturns]
      split_ifs with hlength
      · exact Or.inr hlength
      · exact ⟨hread, by omega, fun _ => rfl⟩
  · exact Or.inl (by simpa using hread)

lemma CallForm.admits.isSome_log? {form : CallForm} {r : Router (Recorded δ)} {pool : PoolRef}
    (h : form.admits r.reads.length r.options.readBalance pool) : (r.log? pool).isSome = true := by
  cases pool with
  | write => rfl
  | read index =>
      rw [Router.log?, Option.isSome_map, List.getElem?_eq_getElem h.2.1]
      rfl

/-- Whether what is sent is what a call asks for: its statement, to a pool that may serve it, unless
the statement is refused. -/
def Call.isServedBy (c : Call) (reads : Nat) (balance : ReadBalance) :
    Option (PoolRef × String) → Prop
  | none => c.isAccepted = false
  | some (pool, sql) => c.isAccepted = true ∧ c.form.admits reads balance pool ∧ sql = c.sql

/-- A read that any pool may serve is accepted for selects only. -/
lemma Call.classify_of_isPoolRead {c : Call} (hread : c.form.isPoolRead = true)
    (haccepted : c.isAccepted = true) : Sql.classify c.sql = .select := by
  obtain ⟨form, sql⟩ := c
  cases form <;> simp_all [CallForm.isPoolRead, Call.isAccepted, CallForm.operation,
    Operation.kind?, StatementKind.isAcceptedAs]

/-! ## What steps send -/

section Steps

variable [Driver δ]

lemma Router.send_sends (op : Operation) {pool : PoolRef} (sql : String) {r : Router (Recorded δ)}
    (hpool : (r.log? pool).isSome = true) :
    r.Sends (r.send op pool sql).router (some (pool, sql)) := by
  rw [send_router]
  exact sends_setDriver hpool rfl

/-- A dispatched statement is sent if it is accepted. -/
lemma Router.dispatch_sends (c : Call) {pool : PoolRef} {r : Router (Recorded δ)}
    (hpool : (r.log? pool).isSome = true) :
    r.Sends (r.dispatch c.form.operation pool c.sql).router
      (if c.isAccepted then some (pool, c.sql) else none) := by
  split_ifs with haccepted
  · rw [dispatch_of_isAccepted haccepted]
    exact send_sends _ _ hpool
  · rw [dispatch_router_of_refused (by simpa using haccepted)]
    rfl

/-- A poll sends the statement that the stream waits to send. -/
lemma RowStream.poll_sends {s : RowStream} {r : Router (Recorded δ)}
    (hpool : ∀ pool sql, s.waiting? = some (pool, sql) → (r.log? pool).isSome = true) :
    r.Sends (s.poll r).router s.waiting? := by
  cases s with
  | plain source => rfl
  | routed s =>
      obtain ⟨state, pool, sql, start, rows⟩ := s
      cases state with
      | refused cause => rfl
      | streaming source =>
          show r.Sends (RoutedStream.pollSource _ source r).router none
          rw [RoutedStream.pollSource_router]
          rfl
      | opening polls =>
          obtain ⟨time, hrouter⟩ :=
            RoutedStream.pollOpening_router ⟨.opening polls, pool, sql, start, rows⟩ polls r
          show r.Sends (RoutedStream.pollOpening _ polls r).router _
          rw [hrouter]
          cases polls with
          | zero => exact Router.sends_setDriver (hpool pool sql rfl) rfl
          | succ polls => exact Router.sends_nothing rfl
      -- What is left is a stream that is over.
      | _ => rfl

end Steps

namespace Session

/-! ## What is due -/

/-- The stream under a label that has not been polled, for the one before a step. -/
def awaitingAfter (label : Nat) (before : Option Call) : Step → Option Call
  | .call l c => if l = label ∧ c.form.isStream = true then some c else before
  | .poll l => if l = label then none else before

/-- The call that a stream has come out of which is under a label and has not been polled. -/
def awaiting (history : List Step) (label : Nat) : Option Call :=
  history.foldl (awaitingAfter label) none

/-- The call whose statement is due at a step. -/
def due (history : List Step) : Step → Option Call
  | .call _ c => if c.form.isStream then none else some c
  | .poll label => awaiting history label

/-- Whether what is sent is what is asked for, if anything is. -/
def isServed (reads : Nat) (balance : ReadBalance) :
    Option Call → Option (PoolRef × String) → Prop
  | none, sent => sent = none
  | some c, sent => c.isServedBy reads balance sent

lemma awaitingAfter_of_ne {label : Nat} {next : Step} (h : label ≠ next.label)
    (before : Option Call) : awaitingAfter label before next = before := by
  cases next with
  | call l c => exact if_neg fun hboth => h hboth.1.symm
  | poll l => exact if_neg fun hsame => h hsame.symm

lemma awaiting_concat (history : List Step) (next : Step) (label : Nat) :
    awaiting (history ++ [next]) label = awaitingAfter label (awaiting history label) next := by
  rw [awaiting, List.foldl_append]
  rfl

/-! ## What the steps say of a session -/

/-- What the steps so far say of a session. -/
structure Traces (reads : Nat) (options : RouterOptions) (history : List Step)
    (s : Session (Recorded δ)) : Prop where
  shape : s.router.shape = (reads, options)
  /-- Streams wait to send what was asked of them. -/
  awaited : ∀ label, isServed reads options.readBalance (awaiting history label)
    ((s.streams label).bind RowStream.waiting?)
  /-- Read pools were sent selects only. -/
  selects : ∀ index log, s.router.log? (.read index) = some log →
    ∀ sql ∈ log, Sql.classify sql = .select

/-- Read pools that are sent what is due are sent selects only. -/
lemma selects_of_sends {reads : Nat} {balance : ReadBalance} {before after : Router (Recorded δ)}
    {call? : Option Call} {sent : Option (PoolRef × String)}
    (hserved : isServed reads balance call? sent) (hsends : before.Sends after sent)
    (hbefore : ∀ index log, before.log? (.read index) = some log →
      ∀ sql ∈ log, Sql.classify sql = .select) :
    ∀ index log, after.log? (.read index) = some log →
      ∀ sql ∈ log, Sql.classify sql = .select := by
  intro index log hlog
  cases sent with
  | none =>
      have hsame : after.log? = before.log? := hsends
      exact hbefore index log (hsame ▸ hlog)
  | some sending =>
      obtain ⟨pool, sql⟩ := sending
      obtain ⟨⟨logged, hlogged, hlater⟩, hothers⟩ := hsends
      by_cases hpool : pool = .read index
      · subst hpool
        obtain rfl := Option.some.inj (hlog.symm.trans hlater)
        cases call? with
        | none => cases hserved
        | some c =>
            obtain ⟨haccepted, hadmits, rfl⟩ := hserved
            refine List.forall_mem_append.mpr ⟨hbefore index logged hlogged, ?_⟩
            simpa using Call.classify_of_isPoolRead hadmits.1 haccepted
      · rw [hothers _ (Ne.symm hpool)] at hlog
        exact hbefore index log hlog

/-- What a call asks of the pool that it asks is what is asked for. -/
lemma isServed_turn (c : Call) (r : Router δ) :
    isServed r.reads.length r.options.readBalance (some c)
      (if c.isAccepted then some ((c.form.turn r).1, c.sql) else none) := by
  split_ifs with haccepted
  · exact ⟨haccepted, c.form.admits_turn r, rfl⟩
  · exact (by simpa using haccepted : c.isAccepted = false)

/-- A session that starts with nothing on record. -/
def recorded (write : δ) (reads : List δ) (options : RouterOptions) : Session (Recorded δ) :=
  ofRouter (.ofDrivers (.fresh write) (reads.map .fresh) options)

lemma traces_recorded (write : δ) (reads : List δ) (options : RouterOptions) :
    Traces reads.length options [] (recorded write reads options) := by
  refine ⟨?_, fun label => rfl, ?_⟩
  · show ((reads.map Recorded.fresh).length, options) = _
    rw [List.length_map]
  · intro index log hlog
    obtain ⟨d, hd, rfl⟩ := Option.map_eq_some_iff.mp hlog
    obtain ⟨d, -, rfl⟩ := List.mem_map.mp (List.mem_of_getElem? hd)
    simp [Recorded.fresh]

variable [Driver δ]

/-- **A step sends what is due.** -/
theorem Traces.sends {reads : Nat} {options : RouterOptions} {history : List Step}
    {s : Session (Recorded δ)} (h : Traces reads options history s) (next : Step) :
    ∃ sent, isServed reads options.readBalance (due history next) sent ∧
      s.router.Sends (s.step next).2.router sent := by
  obtain ⟨rfl, rfl⟩ := Prod.mk.inj h.shape
  cases next with
  | call label c =>
      have hadmits := c.form.admits_turn s.router
      have hlog : (c.form.turn s.router).2.log? = s.router.log? := by
        rw [c.form.turn_router]
        rfl
      rw [step, due]
      cases hstream : c.form.isStream with
      | false =>
          have hpool : ((c.form.turn s.router).2.log? (c.form.turn s.router).1).isSome = true := by
            rw [hlog]
            exact hadmits.isSome_log?
          refine ⟨_, isServed_turn c s.router, ?_⟩
          have hsends := Router.dispatch_sends c hpool
          rw [call_of_not_isStream hstream]
          unfold Router.Sends at hsends ⊢
          rwa [hlog] at hsends
      | true =>
          refine ⟨none, rfl, ?_⟩
          rw [call_of_isStream hstream]
          show Router.log? (Router.streamIn _ _ _).router = _
          rw [Router.streamIn_router, hlog]
  | poll label =>
      -- The pool was picked when the stream was asked for, and the stream has kept it.
      have hawaited := h.awaited label
      refine ⟨_, hawaited, ?_⟩
      rw [step, poll]
      cases hstream : s.streams label with
      | none => rfl
      | some stream =>
          refine RowStream.poll_sends fun pool sql hwaiting => ?_
          rw [hstream, Option.bind_some, hwaiting] at hawaited
          cases hcall : awaiting history label with
          | none => simp [hcall, isServed] at hawaited
          | some c =>
              rw [hcall] at hawaited
              exact hawaited.2.1.isSome_log?

/-- After one step more the streams wait to send what is awaited then. -/
lemma Traces.awaited_step {reads : Nat} {options : RouterOptions} {history : List Step}
    {s : Session (Recorded δ)} (h : Traces reads options history s) (next : Step) (label : Nat) :
    isServed reads options.readBalance (awaiting (history ++ [next]) label)
      (((s.step next).2.streams label).bind RowStream.waiting?) := by
  have hbefore := h.awaited label
  rw [awaiting_concat]
  by_cases hlabel : label = next.label
  · subst hlabel
    cases next with
    | call label c =>
        rw [step, awaitingAfter]
        cases hstream : c.form.isStream with
        | false =>
            rw [call_of_not_isStream hstream, if_neg (by simp)]
            exact hbefore
        | true =>
            obtain ⟨rfl, rfl⟩ := Prod.mk.inj h.shape
            rw [call_of_isStream hstream, if_pos ⟨rfl, rfl⟩]
            show isServed _ _ _ ((Function.update s.streams label (some _) label).bind _)
            rw [Function.update_self, Option.bind_some, Router.waiting?_streamIn hstream]
            exact isServed_turn c s.router
    | poll label =>
        rw [step, poll, awaitingAfter]
        show isServed _ _ (if label = label then none else _) _
        rw [if_pos rfl]
        cases hstream : s.streams label with
        | none =>
            show (s.streams label).bind _ = none
            rw [hstream, Option.bind_none]
        | some stream =>
            show (Function.update s.streams label (some _) label).bind _ = none
            rw [Function.update_self, Option.bind_some, RowStream.waiting?_poll]
  · rw [awaitingAfter_of_ne hlabel, s.streams_step_of_ne hlabel]
    exact hbefore

/-- **What the steps say of a session stays true with every step.** -/
theorem Traces.step {reads : Nat} {options : RouterOptions} {history : List Step}
    {s : Session (Recorded δ)} (h : Traces reads options history s) (next : Step) :
    Traces reads options (history ++ [next]) (s.step next).2 := by
  obtain ⟨sent, hserved, hsends⟩ := h.sends next
  exact ⟨(s.shape_step next).trans h.shape, h.awaited_step next,
    selects_of_sends hserved hsends h.selects⟩

/-- What the steps say of a session stays true in every run. -/
theorem Traces.run {reads : Nat} {options : RouterOptions} {history : List Step}
    {s : Session (Recorded δ)} (h : Traces reads options history s) (steps : List Step) :
    Traces reads options (history ++ steps) (s.run steps) := by
  induction steps generalizing history s with
  | nil =>
      rw [List.append_nil]
      exact h
  | cons next steps ih =>
      have hrest := ih (h.step next)
      rw [List.append_assoc] at hrest
      exact hrest

/-- **Statements go where they belong.**  After any run of a session, a step sends the statement
that is due, if one is: as it is, to one pool that may serve the call, and not at all if it is of
the wrong kind.  And whatever a read pool has been sent is a select. -/
theorem run_sends (write : δ) (reads : List δ) (options : RouterOptions) (history : List Step)
    (next : Step) :
    (∃ sent, isServed reads.length options.readBalance (due history next) sent ∧
      ((recorded write reads options).run history).router.Sends
        ((recorded write reads options).run (history ++ [next])).router sent) ∧
    ∀ index log, ((recorded write reads options).run history).router.log? (.read index) = some log →
      ∀ sql ∈ log, Sql.classify sql = .select := by
  have htraces := (traces_recorded write reads options).run history
  refine ⟨?_, htraces.selects⟩
  rw [run_concat]
  exact htraces.sends next

/-- A select is sent to the read pool, and an insert after it to the write pool. -/
theorem run_sends_of_insert :
    let start := recorded (.ofScript "write" []) [ScriptedDriver.ofScript "read-0" []]
      ⟨.roundRobin, none, none⟩
    let before := start.run [.call 0 ⟨.selectAll, "SELECT 1"⟩]
    let after := start.run ([.call 0 ⟨.selectAll, "SELECT 1"⟩] ++ [.call 1 ⟨.insert, "INSERT"⟩])
    before.router.log? (.read 0) = some ["SELECT 1"] ∧ Sql.classify "SELECT 1" = .select ∧
      before.router.Sends after.router (some (.write, "INSERT")) := by
  intro start before after
  have hlog : before.router.log? (.read 0) = some ["SELECT 1"] := by decide +kernel
  have haccepted : Call.isAccepted ⟨.insert, "INSERT"⟩ = true := by decide +kernel
  obtain ⟨⟨sent, hserved, hsent⟩, hselects⟩ :=
    run_sends (.ofScript "write" []) [ScriptedDriver.ofScript "read-0" []]
      ⟨.roundRobin, none, none⟩ [.call 0 ⟨.selectAll, "SELECT 1"⟩] (.call 1 ⟨.insert, "INSERT"⟩)
  refine ⟨hlog, hselects 0 _ hlog "SELECT 1" (by simp), ?_⟩
  cases sent with
  | none => exact absurd (haccepted.symm.trans hserved) (by decide)
  | some sending =>
      obtain ⟨pool, sql⟩ := sending
      obtain ⟨-, hadmits, rfl⟩ := hserved
      cases pool with
      | write => exact hsent
      | read index => exact absurd hadmits.1 (by decide)

end Session

end SqlAccess
