import SqlAccess.Proofs.Router.Polling
import SqlAccess.Proofs.Router.Routing

/-!
# The end of a router

Shutting a router down asks every driver once, in order, and goes on after a failure; of several
failures the first is reported.  Whether it is complete in this sense cannot be told from the
drivers afterwards, so `Router.shutdownBy` is run with a shutdown that takes notes
(`Router.shutdownNoting`).

**What is shut down stays shut down.**  A scripted driver that has been shut down answers every
statement with a failure and is left as it was.  So all that is done with a router after its end
leaves the drivers as they are, and every statement that is due fails: with the refusal if it is of
the wrong kind, and else with the failure of the operation.  This takes in the streams that were
asked for before the end and have not been polled, because they have sent nothing yet.

* `IsUsed`, `Session.drivers_step` — a step uses one driver at most, and in one of two ways.
* `Session.Promises` — awaited streams are as they came out of their calls; every step keeps it
  (`Session.Promises.step`).
* **`Session.shutdown_final`** — the end is complete and final.
-/

namespace SqlAccess

/-! ## Every driver once, in order -/

namespace Router

variable {δ : Type} [Driver δ]

/-- Shuts a driver down, and notes that it was asked to shut down. -/
def shutdownNoting (d : δ) : StateM (List δ) (Except Error Unit × δ) := do
  modify (· ++ [d])
  pure (Driver.shutdown d)

/-- What comes of drivers that are shut down, and of nothing else. -/
def shutdownEach (drivers : List δ) : List Error × List δ × List LogEvent :=
  Id.run (shutdownAll (fun d => pure (Driver.shutdown d)) drivers)

lemma shutdownEach_cons (d : δ) (others : List δ) :
    shutdownEach (d :: others) =
      match (Driver.shutdown d).1 with
      | .ok _ =>
        ((shutdownEach others).1, (Driver.shutdown d).2 :: (shutdownEach others).2.1,
          (shutdownEach others).2.2)
      | .error e =>
        (e :: (shutdownEach others).1, (Driver.shutdown d).2 :: (shutdownEach others).2.1,
          .poolNotShutDown (Driver.name d) e :: (shutdownEach others).2.2) := rfl

lemma shutdownAll_noting (noted drivers : List δ) :
    (shutdownAll shutdownNoting drivers).run noted = (shutdownEach drivers, noted ++ drivers) := by
  induction drivers generalizing noted with
  | nil =>
      rw [List.append_nil]
      rfl
  | cons d others ih =>
      have hrest := ih (noted ++ [d])
      rw [List.append_assoc] at hrest
      rw [shutdownAll, StateT.run_bind]
      simp only [shutdownNoting, StateT.run_bind, StateT.run_modify, StateT.run_pure, pure_bind,
        hrest]
      rfl

/-- **Every driver is asked once, the write driver first**, whatever becomes of each. -/
lemma shutdownBy_noting (r : Router δ) :
    (r.shutdownBy shutdownNoting).run [] = (r.shutdown, r.drivers) := by
  rw [shutdownBy, StateT.run_bind, shutdownAll_noting]
  rfl

/-- All drivers are left as shutting them down leaves them. -/
lemma shutdownEach_drivers (drivers : List δ) :
    (shutdownEach drivers).2.1 = drivers.map fun d => (Driver.shutdown d).2 := by
  induction drivers with
  | nil => rfl
  | cons d others ih =>
      rw [shutdownEach_cons, List.map_cons, ← ih]
      split <;> rfl

lemma drivers_shutdown (r : Router δ) :
    r.shutdown.router.drivers = r.drivers.map fun d => (Driver.shutdown d).2 := by
  have hdrivers := shutdownEach_drivers r.drivers
  rw [drivers, List.map_cons] at hdrivers
  show (shutdownEach r.drivers).2.1.headD r.write :: (shutdownEach r.drivers).2.1.tail = _
  rw [drivers, hdrivers]
  rfl

/-- Whether an error is the first that shutting down drivers meets. -/
def IsFirstFailure (drivers : List δ) (e : Error) : Prop :=
  ∃ earlier d later, drivers = earlier ++ d :: later ∧
    (∀ d' ∈ earlier, (Driver.shutdown d').1 = .ok ()) ∧ (Driver.shutdown d).1 = .error e

lemma isFirstFailure_cons (d : δ) (others : List δ) (e : Error) :
    IsFirstFailure (d :: others) e ↔ (Driver.shutdown d).1 = .error e ∨
      (Driver.shutdown d).1 = .ok () ∧ IsFirstFailure others e := by
  constructor
  · rintro ⟨earlier, failing, later, hdrivers, hearlier, hfails⟩
    cases earlier with
    | nil =>
        obtain ⟨rfl, rfl⟩ := List.cons.inj hdrivers
        exact .inl hfails
    | cons first earlier =>
        obtain ⟨rfl, rfl⟩ := List.cons.inj hdrivers
        rw [List.forall_mem_cons] at hearlier
        exact .inr ⟨hearlier.1, earlier, failing, later, rfl, hearlier.2, hfails⟩
  · rintro (hfails | ⟨hok, earlier, failing, later, rfl, hearlier, hfails⟩)
    · exact ⟨[], d, others, rfl, by simp, hfails⟩
    · exact ⟨d :: earlier, failing, later, rfl, List.forall_mem_cons.mpr ⟨hok, hearlier⟩, hfails⟩

/-- The failures are listed in order: none if all drivers succeed, and else the first one first. -/
lemma shutdownEach_failures (drivers : List δ) :
    ((shutdownEach drivers).1 = [] ↔ ∀ d ∈ drivers, (Driver.shutdown d).1 = .ok ()) ∧
      ∀ e, (shutdownEach drivers).1.head? = some e ↔ IsFirstFailure drivers e := by
  induction drivers with
  | nil => simp [shutdownEach, shutdownAll, IsFirstFailure]
  | cons d others ih =>
      rw [shutdownEach_cons, List.forall_mem_cons]
      simp only [isFirstFailure_cons]
      cases hresult : (Driver.shutdown d).1 with
      | ok => simpa using ih
      | error e => simp

/-- The result is the first failure of the list. -/
lemma shutdown_result_eq (r : Router δ) :
    r.shutdown.result = (shutdownEach r.drivers).1.head?.elim (.ok ()) .error := by
  unfold shutdown shutdownBy shutdownEach
  generalize shutdownAll (m := Id) (fun d => pure (Driver.shutdown d)) r.drivers = outcome
  obtain ⟨failures, drivers, events⟩ := outcome
  cases failures <;> rfl

/-- **The first failure is reported**, and success if there is none. -/
lemma shutdown_result (r : Router δ) :
    (r.shutdown.result = .ok () ↔ ∀ d ∈ r.drivers, (Driver.shutdown d).1 = .ok ()) ∧
      ∀ e, r.shutdown.result = .error e ↔ IsFirstFailure r.drivers e := by
  obtain ⟨hnone, hfirst⟩ := shutdownEach_failures r.drivers
  rw [shutdown_result_eq, ← hnone]
  simp only [← hfirst]
  cases (shutdownEach r.drivers).1 <;> simp

end Router

/-! ## What steps do to the drivers -/

section Drivers

variable {δ : Type}

lemma Router.forall_drivers_setDriver {P : δ → Prop} {r : Router δ} {pool : PoolRef} {d : δ}
    (h : ∀ x ∈ r.drivers, P x) (hd : P d) : ∀ x ∈ (r.setDriver pool d).drivers, P x := by
  obtain ⟨hwrite, hreads⟩ := List.forall_mem_cons.mp h
  cases pool with
  | write => exact List.forall_mem_cons.mpr ⟨hd, hreads⟩
  | read index =>
      refine List.forall_mem_cons.mpr ⟨hwrite, fun x hx => ?_⟩
      rcases List.mem_or_eq_of_mem_set hx with hx | rfl
      · exact hreads x hx
      · exact hd

lemma Router.drivers_setDriver_self (r : Router δ) (pool : PoolRef) :
    (r.setDriver pool (r.driver pool)).drivers = r.drivers := by
  cases pool with
  | write => rfl
  | read index =>
      show r.write :: r.reads.set index (r.reads.getD index r.write) = r.write :: r.reads
      by_cases hindex : index < r.reads.length
      · rw [List.getD_eq_getElem?_getD, List.getElem?_eq_getElem hindex, Option.getD_some,
          List.set_getElem_self]
      · rw [List.set_eq_of_length_le (Nat.le_of_not_lt hindex)]

end Drivers

section Use

variable {δ : Type} [Driver δ]

/-- Whether a driver is what another one is after it has been used once. -/
inductive IsUsed (d : δ) : δ → Prop
  | executed (sql : String) : IsUsed d (Driver.execute d sql).2
  | polled (sql : String) (polls : Nat) : IsUsed d (Driver.pollOpen d sql polls).2

/-- Whether the drivers of a router are those of another one, of which one may have been used. -/
inductive Router.DriversUsed (r after : Router δ) : Prop
  | none (h : after.drivers = r.drivers)
  | one (pool : PoolRef) (d : δ) (hused : IsUsed (r.driver pool) d)
      (h : after.drivers = (r.setDriver pool d).drivers)

/-- Whose turn it is does not matter to the drivers. -/
lemma Router.DriversUsed.of_turn {form : CallForm} {r after : Router δ}
    (h : (form.turn r).2.DriversUsed after) : r.DriversUsed after := by
  rw [form.turn_router] at h
  cases h with
  | none h => exact .none h
  | one pool d hused h => exact .one pool d hused (h.trans (by cases pool <;> rfl))

lemma Router.dispatch_driversUsed (c : Call) (pool : PoolRef) (r : Router δ) :
    r.DriversUsed (r.dispatch c.form.operation pool c.sql).router := by
  cases haccepted : c.isAccepted with
  | false => exact .none (by rw [dispatch_router_of_refused haccepted])
  | true =>
      rw [dispatch_of_isAccepted haccepted, send_router]
      exact .one pool _ (.executed c.sql) rfl

lemma RowStream.poll_driversUsed (s : RowStream) (r : Router δ) :
    r.DriversUsed (s.poll r).router := by
  cases s with
  | plain source => exact .none rfl
  | routed s =>
      show r.DriversUsed (s.poll r).router
      rw [RoutedStream.poll]
      split
      · exact .none rfl
      · exact .none rfl
      · rename_i polls _
        obtain ⟨time, hrouter⟩ := s.pollOpening_router polls r
        rw [hrouter]
        exact .one s.pool _ (.polled s.sql polls) rfl
      · exact .none (by rw [s.pollSource_router])

/-- **A step uses one driver at most.** -/
lemma Session.drivers_step (s : Session δ) (next : Step) :
    s.router.DriversUsed (s.step next).2.router := by
  cases next with
  | call label c =>
      rw [step]
      cases hstream : c.form.isStream with
      | false =>
          rw [call_of_not_isStream hstream]
          exact (Router.dispatch_driversUsed c _ _).of_turn
      | true =>
          rw [call_of_isStream hstream]
          show Router.DriversUsed _ (Router.streamIn _ _ _).router
          rw [Router.streamIn_router]
          exact Router.DriversUsed.of_turn (.none rfl)
  | poll label =>
      rw [step, poll]
      split
      · exact .none rfl
      · rename_i stream _
        exact stream.poll_driversUsed s.router

/-- What use does not change about a driver, steps do not change about any. -/
lemma Session.forall_drivers_run {P : δ → Prop} (hused : ∀ d d', IsUsed d d' → P d → P d')
    {s : Session δ} (h : ∀ d ∈ s.router.drivers, P d) (steps : List Step) :
    ∀ d ∈ (s.run steps).router.drivers, P d := by
  induction steps generalizing s with
  | nil => exact h
  | cons next steps ih =>
      refine ih ?_
      cases s.drivers_step next with
      | none hsame => rwa [hsame]
      | one pool d huse hafter =>
          rw [hafter]
          exact Router.forall_drivers_setDriver h (hused _ d huse (h _ (s.router.driver_mem pool)))

/-- Drivers that use does not change at all are left as they are by any run. -/
lemma Session.drivers_run_of_unchanged {s : Session δ}
    (h : ∀ d ∈ s.router.drivers, ∀ d', IsUsed d d' → d' = d) (steps : List Step) :
    (s.run steps).router.drivers = s.router.drivers := by
  induction steps generalizing s with
  | nil => rfl
  | cons next steps ih =>
      have hstep : (s.step next).2.router.drivers = s.router.drivers := by
        cases s.drivers_step next with
        | none hsame => exact hsame
        | one pool d huse hafter =>
            rw [hafter, h _ (s.router.driver_mem pool) d huse, Router.drivers_setDriver_self]
      exact (ih (by rwa [hstep])).trans hstep

end Use

/-! ## Streams that are awaited -/

namespace Session

variable {δ : Type} [Driver δ]

/-- Whether all streams that are awaited are as they came out of their calls. -/
def Promises (history : List Step) (s : Session δ) : Prop :=
  ∀ label c, awaiting history label = some c → c.form.isStream = true ∧
    ∃ (pool : PoolRef) (r : Router δ), s.streams label = some (r.streamIn pool c.sql).result

/-- **After one step more the awaited streams are still as they came.** -/
lemma Promises.step {history : List Step} {s : Session δ} (h : Promises history s) (next : Step) :
    Promises (history ++ [next]) (s.step next).2 := by
  intro label c hawaiting
  rw [awaiting_concat] at hawaiting
  by_cases hlabel : label = next.label
  · subst hlabel
    cases next with
    | poll label => simp [awaitingAfter, Step.label] at hawaiting
    | call label asked =>
        rw [Session.step]
        cases hstream : asked.form.isStream with
        | false =>
            rw [awaitingAfter, if_neg (by simp [hstream])] at hawaiting
            rw [call_of_not_isStream hstream]
            exact h label c hawaiting
        | true =>
            rw [awaitingAfter, if_pos ⟨rfl, hstream⟩] at hawaiting
            obtain rfl := Option.some.inj hawaiting
            rw [call_of_isStream hstream]
            exact ⟨hstream, _, _, Function.update_self ..⟩
  · rw [awaitingAfter_of_ne hlabel] at hawaiting
    rw [s.streams_step_of_ne hlabel]
    exact h label c hawaiting

lemma Promises.run {history : List Step} {s : Session δ} (h : Promises history s)
    (steps : List Step) : Promises (history ++ steps) (s.run steps) := by
  induction steps generalizing history s with
  | nil =>
      rw [List.append_nil]
      exact h
  | cons next steps ih =>
      have hrest := ih (h.step next)
      rw [List.append_assoc] at hrest
      exact hrest

end Session

/-! ## Drivers that have been shut down -/

namespace ScriptedDriver

/-- The driver after its end. -/
def closed (d : ScriptedDriver) : ScriptedDriver := { d with isShutDown := true }

/-- What a driver answers after its end. -/
def closedError (d : ScriptedDriver) : Error := .driver (d.name ++ ": pool is closed")

lemma execute_driver (d : ScriptedDriver) (sql : String) :
    (d.execute sql).2 = (d.receive sql).2 := by
  rw [execute]
  split <;> simp_all

lemma openAs_driver (d : ScriptedDriver) (sql : String) :
    (d.openAs sql).2 = (d.receive sql).2 := by
  rw [← execute_driver, openAs]
  split
  · rw [openBuffered]
    split <;> simp_all
  · rw [openRows, execute_driver]
    split <;> simp_all

/-- Using a driver means that it receives a statement. -/
lemma receive_of_isUsed {d d' : ScriptedDriver} (h : IsUsed d d') :
    ∃ sql, d' = (d.receive sql).2 := by
  cases h with
  | executed sql => exact ⟨sql, d.execute_driver sql⟩
  | polled sql => exact ⟨sql, d.openAs_driver sql⟩

lemma conduct_of_isUsed {d d' : ScriptedDriver} (h : IsUsed d d') : d'.conduct = d.conduct := by
  obtain ⟨sql, rfl⟩ := receive_of_isUsed h
  rw [receive]
  split <;> rfl

variable {d : ScriptedDriver}

lemma receive_of_isShutDown (h : d.isShutDown = true) (sql : String) :
    d.receive sql = (.error d.closedError, d) := if_pos h

/-- **A driver that has been shut down is left as it is** by all that is asked of it. -/
lemma eq_of_isUsed (h : d.isShutDown = true) {d' : ScriptedDriver} (hused : IsUsed d d') :
    d' = d := by
  obtain ⟨sql, rfl⟩ := receive_of_isUsed hused
  rw [receive_of_isShutDown h]

lemma execute_of_isShutDown (h : d.isShutDown = true) (sql : String) :
    d.execute sql = (.error d.closedError, d) := by
  rw [execute, receive_of_isShutDown h]

lemma openAs_of_isShutDown (h : d.isShutDown = true) (sql : String) :
    d.openAs sql = (.ready (.error d.closedError), d) := by
  rw [openAs, openBuffered, openRows, execute_of_isShutDown h, receive_of_isShutDown h]
  split <;> rfl

end ScriptedDriver

/-! ## What is answered after the end -/

/-- What a call fails with after the end: its operation has failed, unless its statement is of the
wrong kind. -/
def Call.closedError (c : Call) : Error :=
  match c.form.operation.kind? with
  | none => .execution c.form.operation
  | some kind =>
    if c.isAccepted then .execution c.form.operation else Sql.kindError kind c.sql

/-- The failure that an answer tells of. -/
def Answer.failure? : Answer → Option Error
  | .row (.error e) | .rows (.error e) | .change (.error e) | .reply (.error e) => some e
  | .poll (.ready (some (.error e))) => some e
  | _ => none

lemma Call.closedError_eq (c : Call) :
    c.closedError =
      (Router.refusal? c.form.operation c.sql).getD (.execution c.form.operation) := by
  unfold closedError isAccepted Router.refusal? Sql.validate
  cases c.form.operation.kind? with
  | none => rfl
  | some kind => cases h : (Sql.classify c.sql).isAcceptedAs kind <;> simp [h]

lemma CallForm.failure?_answerOf {form : CallForm} (h : form.isStream = false) (e : Error) :
    (form.answerOf (.error e)).failure? = some e := by
  cases form with
  | stream => simp [isStream] at h
  | streamFromWrite => simp [isStream] at h
  | _ => rfl

section Closed

variable {r : Router ScriptedDriver}

/-- A statement that is dispatched after the end is refused or fails. -/
lemma Router.dispatch_of_closed (hclosed : ∀ d ∈ r.drivers, d.isShutDown = true) (c : Call)
    (pool : PoolRef) : (r.dispatch c.form.operation pool c.sql).result = .error c.closedError := by
  rw [c.closedError_eq, dispatch]
  cases hrefusal : refusal? c.form.operation c.sql with
  | some e => rfl
  | none =>
      show (r.send c.form.operation pool c.sql).result = _
      rw [send_result]
      show (ScriptedDriver.execute (r.driver pool) c.sql).1.mapError _ = _
      rw [ScriptedDriver.execute_of_isShutDown (hclosed _ (r.driver_mem pool))]
      rfl

/-- A stream that is first polled after the end fails, or tells that its statement was refused. -/
lemma Router.poll_streamIn_of_closed (hclosed : ∀ d ∈ r.drivers, d.isShutDown = true) {c : Call}
    (hstream : c.form.isStream = true) (pool : PoolRef) (asked : Router ScriptedDriver) :
    ((asked.streamIn pool c.sql).result.poll r).result.1 =
      .ready (some (.error c.closedError)) := by
  rw [c.closedError_eq, CallForm.operation_of_isStream hstream, streamIn]
  cases hrefusal : refusal? .stream c.sql with
  | some e => rfl
  | none =>
      have hopen : (Driver.pollOpen (r.driver pool) c.sql 0).1 =
          .ready (.error (r.driver pool).closedError) := by
        show (ScriptedDriver.openAs (r.driver pool) c.sql).1 = _
        rw [ScriptedDriver.openAs_of_isShutDown (hclosed _ (r.driver_mem pool))]
      show (RoutedStream.pollOpening ⟨.opening 0, pool, c.sql, asked.clock, 0⟩ 0 r).result.1 = _
      rw [RoutedStream.pollOpening_of_failed hopen]
      rfl

end Closed

namespace Session

/-- **A statement that is due after the end fails.** -/
lemma failure?_step_of_closed {history : List Step} {s : Session ScriptedDriver}
    (hpromises : Promises history s) (hclosed : ∀ d ∈ s.router.drivers, d.isShutDown = true)
    {next : Step} {c : Call} (hdue : due history next = some c) :
    (s.step next).1.failure? = some c.closedError := by
  cases next with
  | call label asked =>
      rw [due] at hdue
      cases hstream : asked.form.isStream with
      | true => simp [hstream] at hdue
      | false =>
          obtain rfl : asked = c := by simpa [hstream] using hdue
          have hturn : ∀ d ∈ (asked.form.turn s.router).2.drivers, d.isShutDown = true := by
            rw [asked.form.turn_router]
            exact hclosed
          rw [step, call_of_not_isStream hstream]
          show (asked.form.answerOf (Router.dispatch _ _ _ _).result).failure? = _
          rw [Router.dispatch_of_closed hturn, CallForm.failure?_answerOf hstream]
  | poll label =>
      obtain ⟨hstream, pool, asked, hasked⟩ := hpromises label c hdue
      rw [step, poll, hasked]
      show (Answer.poll (RowStream.poll _ s.router).result.1).failure? = _
      rw [Router.poll_streamIn_of_closed hclosed hstream]
      rfl

/-- Shuts the router of a session down. -/
def shutdown {δ : Type} [Driver δ] (s : Session δ) : Session δ :=
  { s with router := s.router.shutdown.router }

lemma drivers_shutdown_of_full {s : Session ScriptedDriver}
    (hfull : ∀ d ∈ s.router.drivers, d.conduct = .full) :
    s.shutdown.router.drivers = s.router.drivers.map ScriptedDriver.closed := by
  refine s.router.drivers_shutdown.trans (List.map_congr_left fun d hd => ?_)
  have hconduct := hfull d hd
  obtain ⟨name, script, received, isShutDown, conduct, delay⟩ := d
  obtain rfl : conduct = .full := hconduct
  rfl

/-- **The end of a router is complete and final.**  Shutting down asks every driver once, the write
driver first, and reports the first failure.  A router of scripted drivers may then be used in any
way: its drivers stay as they were before the end, but for being shut down, so that nothing is
received and no script is used up; and every statement that is due fails, be it that of a call or
that of a stream which was asked for at any time and is polled for the first time. -/
theorem shutdown_final :
    (∀ (δ : Type) [Driver δ] (r : Router δ),
      (r.shutdownBy Router.shutdownNoting).run [] = (r.shutdown, r.drivers) ∧
      r.shutdown.router.drivers = r.drivers.map (fun d => (Driver.shutdown d).2) ∧
      (r.shutdown.result = .ok () ↔ ∀ d ∈ r.drivers, (Driver.shutdown d).1 = .ok ()) ∧
      ∀ e, r.shutdown.result = .error e ↔ Router.IsFirstFailure r.drivers e) ∧
    ∀ (r : Router ScriptedDriver) (before after : List Step),
      (∀ d ∈ r.drivers, d.conduct = .full) →
      let s := (ofRouter r).run before
      let s' := s.shutdown.run after
      s'.router.drivers = s.router.drivers.map ScriptedDriver.closed ∧
        ∀ next c, due (before ++ after) next = some c →
          (s'.step next).1.failure? = some c.closedError := by
  refine ⟨fun δ _ r => ⟨r.shutdownBy_noting, r.drivers_shutdown, r.shutdown_result⟩, ?_⟩
  intro r before after hfull s s'
  have hfull : ∀ d ∈ s.router.drivers, d.conduct = .full :=
    forall_drivers_run (fun d d' hused hd => (ScriptedDriver.conduct_of_isUsed hused).trans hd)
      hfull before
  have hdrivers := drivers_shutdown_of_full hfull
  have hclosed : ∀ d ∈ s.shutdown.router.drivers, d.isShutDown = true := by
    rw [hdrivers, List.forall_mem_map]
    exact fun d _ => rfl
  have hunchanged : ∀ steps, (s.shutdown.run steps).router.drivers = s.shutdown.router.drivers :=
    drivers_run_of_unchanged fun d hd d' => ScriptedDriver.eq_of_isUsed (hclosed d hd)
  have hnothing : Promises [] (ofRouter r) := fun label c hnone => by cases hnone
  have hpromises : Promises before s := hnothing.run before
  refine ⟨?_, fun next c hdue => ?_⟩
  · rw [hunchanged, hdrivers]
  · refine failure?_step_of_closed (Promises.run ?_ after) ?_ hdue
    · exact hpromises
    · rw [hunchanged]
      exact hclosed

/-- A stream that was asked for before the end fails when it is polled after it. -/
theorem shutdown_final_of_stream :
    let write := ScriptedDriver.ofScript "write" [.rows []]
    let read := ScriptedDriver.ofScript "read-0" [.rows []]
    let s := (ofRouter (.ofDrivers write [read] .default)).run [.call 0 ⟨.stream, "SELECT 1"⟩]
    let s' := s.shutdown.run [.call 1 ⟨.insert, "DELETE"⟩]
    (∀ d ∈ [write, read], d.conduct = .full) ∧
      s'.router.drivers = s.router.drivers.map ScriptedDriver.closed ∧
      (s'.step (.poll 0)).1.failure? = some (.execution .stream) ∧
      (s'.step (.call 1 ⟨.upsert, "INSERT"⟩)).1.failure? =
        some (.statementKind .upsert "INSERT") := by
  intro write read s s'
  have hfull : ∀ d ∈ [write, read], d.conduct = .full := by decide
  obtain ⟨hdrivers, hfails⟩ := shutdown_final.2 (.ofDrivers write [read] .default)
    [.call 0 ⟨.stream, "SELECT 1"⟩] [.call 1 ⟨.insert, "DELETE"⟩] hfull
  refine ⟨hfull, hdrivers, ?_, ?_⟩
  · rw [hfails (.poll 0) ⟨.stream, "SELECT 1"⟩ rfl]
    decide +kernel
  · rw [hfails (.call 1 ⟨.upsert, "INSERT"⟩) ⟨.upsert, "INSERT"⟩ rfl]
    decide +kernel

end Session

end SqlAccess
