import Mathlib.Logic.Function.Basic
import Mathlib.Tactic.Common
import SqlAccess.Router.Stream

/-!
# Sessions

A session is a router in use.  Its steps are the calls that are given a statement and the polls of
the streams that came out of calls; whoever makes a call puts a label on it, and polls name the
label.  A stream is replaced by the next one under its label.

* `Call` — a call of one of the eleven forms, with its statement.
* `Session.step` and `Session.run` — what steps do to a session.
* `Session.transcript` — the steps with their answers.
* **`Session.call_of_not_isStream`** and **`Session.call_of_isStream`** — there are two kinds of
  calls only: those that dispatch a statement to a pool, and those that open a stream in one.  What
  is said of sessions is proved of these two.
-/

namespace SqlAccess

/-! ## Calls -/

/-- The calls of a router that are given a statement. -/
inductive CallForm where
  | selectOne
  | selectAll
  | selectOneFromWrite
  | selectAllFromWrite
  | insert
  | upsert
  | update
  | delete
  | query
  | stream
  | streamFromWrite
deriving DecidableEq, Repr

namespace CallForm

/-- Whether a call is a read that any read pool may serve. -/
def isPoolRead : CallForm → Bool
  | .selectOne | .selectAll | .stream => true
  | _ => false

/-- Whether a call hands out a stream. -/
def isStream : CallForm → Bool
  | .stream | .streamFromWrite => true
  | _ => false

/-- The operation of a call. -/
def operation : CallForm → Operation
  | .selectOne | .selectAll | .selectOneFromWrite | .selectAllFromWrite => .select
  | .insert => .insert
  | .upsert => .upsert
  | .update => .update
  | .delete => .delete
  | .query => .generic
  | .stream | .streamFromWrite => .stream

lemma operation_of_isStream {form : CallForm} (h : form.isStream = true) :
    form.operation = .stream := by
  cases form with
  | stream => rfl
  | streamFromWrite => rfl
  | _ => simp [isStream] at h

/-- The pool that a call asks, and the router after its turn. -/
def turn {δ : Type} (form : CallForm) (r : Router δ) : PoolRef × Router δ :=
  if form.isPoolRead then r.takeTurn else (.write, r)

end CallForm

/-- A call with its statement. -/
structure Call where
  form : CallForm
  sql : String
deriving DecidableEq, Repr

/-- Whether the statement of a call is of the kind that the call is for. -/
def Call.isAccepted (c : Call) : Bool :=
  c.form.operation.kind?.all fun kind => (Sql.classify c.sql).isAcceptedAs kind

/-- The statements that are refused are those that are not accepted. -/
lemma Router.refusal?_eq_none_iff {c : Call} :
    Router.refusal? c.form.operation c.sql = none ↔ c.isAccepted = true := by
  unfold Router.refusal? Call.isAccepted Sql.validate
  cases c.form.operation.kind? with
  | none => simp
  | some kind => cases h : (Sql.classify c.sql).isAcceptedAs kind <;> simp [h]

/-! ## Turns -/

section Turns

variable {δ : Type}

/-- Whether the read pools of a router take turns. -/
def Router.hasTurns (r : Router δ) : Prop :=
  2 ≤ r.reads.length ∧ r.options.readBalance = .roundRobin

instance (r : Router δ) : Decidable r.hasTurns := by
  unfold Router.hasTurns
  infer_instance

/-- Where the read pools take turns, a read goes to the next and uses the turn up. -/
lemma Router.takeTurn_of_hasTurns {r : Router δ} (h : r.hasTurns) :
    r.takeTurn = (.read (r.turns.toNat % r.reads.length), { r with turns := r.turns + 1 }) := by
  obtain ⟨hlength, hbalance⟩ := h
  unfold Router.takeTurn
  split <;> simp_all

/-- Where the read pools take no turns, a read goes to the first if there is one. -/
lemma Router.takeTurn_of_not_hasTurns {r : Router δ} (h : ¬r.hasTurns) :
    r.takeTurn = (if r.reads.length = 0 then .write else .read 0, r) := by
  unfold Router.takeTurn
  split
  · simp_all
  · simp_all
  · simp_all
  · rename_i hbalance hzero hone
    have hne_zero : r.reads.length ≠ 0 := hzero
    have hne_one : r.reads.length ≠ 1 := hone
    have hlength : 2 ≤ r.reads.length := by omega
    exact absurd ⟨hlength, hbalance⟩ h

/-- Reading changes nothing about a router but whose turn it is. -/
lemma CallForm.turn_router (form : CallForm) (r : Router δ) :
    (form.turn r).2 = { r with turns := (form.turn r).2.turns } := by
  unfold CallForm.turn
  split_ifs
  · by_cases h : r.hasTurns
    · rw [Router.takeTurn_of_hasTurns h]
    · rw [Router.takeTurn_of_not_hasTurns h]
  · rfl

lemma Router.driver_mem (r : Router δ) (pool : PoolRef) : r.driver pool ∈ r.drivers := by
  cases pool with
  | write => exact List.mem_cons_self
  | read index =>
      rw [driver, drivers, List.getD_eq_getElem?_getD]
      cases hread : r.reads[index]? with
      | none => exact List.mem_cons_self
      | some d => exact List.mem_cons_of_mem _ (List.mem_of_getElem? hread)

/-- The driver whose turn it is is one of the drivers that the router has. -/
lemma Router.driver_mem_of_takeTurn {r later : Router δ} {pool : PoolRef}
    (h : r.takeTurn = (pool, later)) : later.driver pool ∈ r.drivers := by
  have hturn : CallForm.selectAll.turn r = (pool, later) := h
  have hlater : later = { r with turns := later.turns } := by
    simpa [hturn] using CallForm.selectAll.turn_router r
  have hdriver : later.driver pool = r.driver pool := by
    rw [hlater]
    rfl
  rw [hdriver]
  exact r.driver_mem pool

end Turns

/-! ## What becomes of the router -/

/-- What no step changes about a router: how many read pools it has, and its options. -/
def Router.shape {δ : Type} (r : Router δ) : Nat × RouterOptions := (r.reads.length, r.options)

lemma Router.shape_setDriver {δ : Type} (r : Router δ) (pool : PoolRef) (d : δ) :
    (r.setDriver pool d).shape = r.shape := by
  cases pool with
  | write => rfl
  | read index =>
      show ((r.reads.set index d).length, r.options) = _
      rw [List.length_set]
      rfl

lemma CallForm.shape_turn {δ : Type} (form : CallForm) (r : Router δ) :
    (form.turn r).2.shape = r.shape := by
  rw [form.turn_router]
  rfl

/-- Whether the read pools take turns is a matter of the shape. -/
lemma Router.hasTurns_congr {δ : Type} {r r' : Router δ} (h : r.shape = r'.shape) :
    r.hasTurns ↔ r'.hasTurns := by
  obtain ⟨hlength, hoptions⟩ := Prod.mk.inj h
  rw [hasTurns, hasTurns, hlength, hoptions]

section Effects

variable {δ : Type} [Driver δ]

/-- Sending a statement changes the driver that it is sent to, and takes time. -/
lemma Router.send_router (op : Operation) (pool : PoolRef) (sql : String) (r : Router δ) :
    (r.send op pool sql).router =
      (r.setDriver pool (Driver.execute (r.driver pool) sql).2).later
        (Driver.executionTime (r.driver pool)) := by
  rw [Router.send]
  split
  · rename_i hexecute
    simp only [hexecute]
  · rename_i hexecute
    simp only [hexecute]

/-- Sending a statement answers what executing it comes to, and of a failure only which operation
has failed. -/
lemma Router.send_result (op : Operation) (pool : PoolRef) (sql : String) (r : Router δ) :
    (r.send op pool sql).result =
      (Driver.execute (r.driver pool) sql).1.mapError fun _ => .execution op := by
  rw [Router.send]
  split
  · rename_i hexecute
    rw [hexecute]
    rfl
  · rename_i hexecute
    rw [hexecute]
    rfl

lemma Router.dispatch_of_isAccepted {c : Call} (h : c.isAccepted = true) (pool : PoolRef)
    (r : Router δ) :
    r.dispatch c.form.operation pool c.sql = r.send c.form.operation pool c.sql := by
  rw [Router.dispatch, Router.refusal?_eq_none_iff.mpr h]

/-- A statement that is refused leaves the router as it is. -/
lemma Router.dispatch_router_of_refused {c : Call} (h : c.isAccepted = false) (pool : PoolRef)
    (r : Router δ) : (r.dispatch c.form.operation pool c.sql).router = r := by
  rw [Router.dispatch]
  split
  · rfl
  · rename_i hnone
    simp [Router.refusal?_eq_none_iff.mp hnone] at h

lemma Router.streamIn_router (pool : PoolRef) (sql : String) (r : Router δ) :
    (r.streamIn pool sql).router = r := by
  rw [Router.streamIn]
  split <;> rfl

lemma RoutedStream.pollSource_router (s : RoutedStream) (source : RowSource) (r : Router δ) :
    (s.pollSource source r).router = r := by
  rw [RoutedStream.pollSource]
  split
  split <;> rfl

/-- Polling a stream that is being opened changes the driver of its pool, and takes time. -/
lemma RoutedStream.pollOpening_router (s : RoutedStream) (polls : Nat) (r : Router δ) :
    ∃ time, (s.pollOpening polls r).router =
      (r.setDriver s.pool (Driver.pollOpen (r.driver s.pool) s.sql polls).2).later time := by
  rw [RoutedStream.pollOpening]
  split
  · rename_i hopen
    exact ⟨0, by simp only [hopen]; rfl⟩
  · rename_i opened d hopen
    refine ⟨Driver.openingTime (r.driver s.pool), ?_⟩
    simp only [hopen]
    cases opened with
    | error e => rfl
    | ok source => exact pollSource_router s source _

lemma Router.shape_dispatch (c : Call) (pool : PoolRef) (r : Router δ) :
    (r.dispatch c.form.operation pool c.sql).router.shape = r.shape := by
  cases haccepted : c.isAccepted with
  | false => rw [dispatch_router_of_refused haccepted]
  | true =>
      rw [dispatch_of_isAccepted haccepted, send_router]
      exact r.shape_setDriver pool _

lemma RowStream.shape_poll (s : RowStream) (r : Router δ) :
    (s.poll r).router.shape = r.shape := by
  cases s with
  | plain source => rfl
  | routed s =>
      show (s.poll r).router.shape = r.shape
      rw [RoutedStream.poll]
      split
      · rfl
      · rfl
      · rename_i polls _
        obtain ⟨time, hrouter⟩ := s.pollOpening_router polls r
        rw [hrouter]
        exact r.shape_setDriver s.pool _
      · rw [s.pollSource_router]

end Effects

/-! ## Streams that have not been polled -/

/-- The pool and the statement of a stream that has not been polled yet. -/
def RowStream.waiting? : RowStream → Option (PoolRef × String)
  | .routed ⟨.opening 0, pool, sql, _, _⟩ => some (pool, sql)
  | _ => none

section Waiting

variable {δ : Type} [Driver δ]

/-- The stream of a statement that is accepted is still to be opened. -/
lemma Router.streamIn_of_isAccepted {c : Call} (hstream : c.form.isStream = true)
    (haccepted : c.isAccepted = true) (pool : PoolRef) (r : Router δ) :
    (r.streamIn pool c.sql).result = .routed ⟨.opening 0, pool, c.sql, r.clock, 0⟩ := by
  have hnone := refusal?_eq_none_iff.mpr haccepted
  rw [CallForm.operation_of_isStream hstream] at hnone
  rw [streamIn, hnone]

/-- The stream of a statement that is refused tells of that. -/
lemma Router.streamIn_of_refused {c : Call} (hstream : c.form.isStream = true)
    (hrefused : c.isAccepted = false) (pool : PoolRef) (r : Router δ) :
    ∃ cause, (r.streamIn pool c.sql).result = .routed (.ofRefusal cause) := by
  cases hrefusal : refusal? .stream c.sql with
  | some cause =>
      refine ⟨cause, ?_⟩
      rw [streamIn, hrefusal]
  | none =>
      rw [← CallForm.operation_of_isStream hstream] at hrefusal
      rw [refusal?_eq_none_iff.mp hrefusal] at hrefused
      cases hrefused

/-- A stream waits to send its statement if the statement is accepted. -/
lemma Router.waiting?_streamIn {c : Call} (h : c.form.isStream = true) (pool : PoolRef)
    (r : Router δ) :
    (r.streamIn pool c.sql).result.waiting? =
      if c.isAccepted then some (pool, c.sql) else none := by
  split_ifs with haccepted
  · rw [streamIn_of_isAccepted h haccepted]
    rfl
  · obtain ⟨cause, hcause⟩ := r.streamIn_of_refused h (by simpa using haccepted) pool
    rw [hcause]
    rfl

lemma RoutedStream.waiting?_pollSource (s : RoutedStream) (source : RowSource) (r : Router δ) :
    (RowStream.routed (s.pollSource source r).result.2).waiting? = none := by
  rw [RoutedStream.pollSource]
  split
  split <;> rfl

/-- A stream that has been polled waits no more. -/
lemma RowStream.waiting?_poll (s : RowStream) (r : Router δ) :
    (s.poll r).result.2.waiting? = none := by
  cases s with
  | plain source => rfl
  | routed s =>
      show (RowStream.routed (s.poll r).result.2).waiting? = none
      rw [RoutedStream.poll]
      split
      · rename_i hover
        obtain ⟨state, _, _, _, _⟩ := s
        obtain rfl : state = .over := hover
        rfl
      · rfl
      · rw [RoutedStream.pollOpening]
        split
        · rfl
        · split
          · rfl
          · exact s.waiting?_pollSource _ _
      · exact s.waiting?_pollSource _ _

end Waiting

/-! ## Steps -/

/-- What a step answers. -/
inductive Answer where
  | row (result : Except Error (Option Record))
  | rows (result : Except Error (List Record))
  | change (result : Except Error Modification)
  | reply (result : Except Error Reply)
  /-- A stream was handed out. -/
  | stream
  | poll (answer : RowPoll)
  /-- There is no stream to poll. -/
  | noStream

/-- A step of a session. -/
inductive Step where
  | call (label : Nat) (c : Call)
  | poll (label : Nat)

/-- The label that a step names. -/
def Step.label : Step → Nat
  | .call label _ => label
  | .poll label => label

/-- A router with the streams that came out of it, by label. -/
structure Session (δ : Type) where
  router : Router δ
  streams : Nat → Option RowStream

namespace Session

variable {δ : Type}

/-- The session of a router that has handed out no streams. -/
def ofRouter (r : Router δ) : Session δ := ⟨r, fun _ => none⟩

/-- A session after a call that answers its result. -/
def afterResult {α : Type} (s : Session δ) (answer : α → Answer) (o : Outcome δ α) :
    Answer × Session δ :=
  (answer o.result, { s with router := o.router })

/-- A session after a call that hands out a stream. -/
def afterStream (s : Session δ) (label : Nat) (o : Outcome δ RowStream) : Answer × Session δ :=
  (.stream, ⟨o.router, Function.update s.streams label (some o.result)⟩)

variable [Driver δ]

/-- Makes a call. -/
def call (s : Session δ) (label : Nat) : Call → Answer × Session δ
  | ⟨.selectOne, sql⟩ => s.afterResult .row (s.router.selectOne sql)
  | ⟨.selectAll, sql⟩ => s.afterResult .rows (s.router.selectAll sql)
  | ⟨.selectOneFromWrite, sql⟩ => s.afterResult .row (s.router.selectOneFromWrite sql)
  | ⟨.selectAllFromWrite, sql⟩ => s.afterResult .rows (s.router.selectAllFromWrite sql)
  | ⟨.insert, sql⟩ => s.afterResult .change (s.router.insert sql)
  | ⟨.upsert, sql⟩ => s.afterResult .change (s.router.upsert sql)
  | ⟨.update, sql⟩ => s.afterResult .change (s.router.update sql)
  | ⟨.delete, sql⟩ => s.afterResult .change (s.router.delete sql)
  | ⟨.query, sql⟩ => s.afterResult .reply (s.router.query sql)
  | ⟨.stream, sql⟩ => s.afterStream label (s.router.stream sql)
  | ⟨.streamFromWrite, sql⟩ => s.afterStream label (s.router.streamFromWrite sql)

/-- Polls the stream of a label. -/
def poll (s : Session δ) (label : Nat) : Answer × Session δ :=
  match s.streams label with
  | none => (.noStream, s)
  | some stream =>
    let o := stream.poll s.router
    (.poll o.result.1, ⟨o.router, Function.update s.streams label (some o.result.2)⟩)

/-- Takes a step. -/
def step (s : Session δ) : Step → Answer × Session δ
  | .call label c => s.call label c
  | .poll label => s.poll label

/-- Takes steps, one after the other. -/
def run (s : Session δ) (steps : List Step) : Session δ :=
  steps.foldl (fun s next => (s.step next).2) s

/-- The steps with what they answer. -/
def transcript (s : Session δ) : List Step → List (Step × Answer)
  | [] => []
  | next :: steps => (next, (s.step next).1) :: (s.step next).2.transcript steps

lemma run_concat (s : Session δ) (steps : List Step) (next : Step) :
    s.run (steps ++ [next]) = ((s.run steps).step next).2 := by
  rw [run, List.foldl_append]
  rfl

end Session

/-! ## The two kinds of calls -/

/-- What a call answers of the result of its statement. -/
def CallForm.answerOf : CallForm → Except Error Reply → Answer
  | .selectOne, result | .selectOneFromWrite, result =>
    .row ((result.map (Reply.select .one)).map Selection.first)
  | .selectAll, result | .selectAllFromWrite, result =>
    .rows ((result.map (Reply.select .all)).map Selection.toList)
  | .insert, result | .upsert, result | .update, result | .delete, result =>
    .change (result.map Reply.modification)
  | .query, result => .reply (result.map Reply.collapse)
  | .stream, _ | .streamFromWrite, _ => .stream

namespace Session

variable {δ : Type} [Driver δ]

/-- A call that hands out no stream dispatches its statement to the pool that it asks. -/
theorem call_of_not_isStream {c : Call} (h : c.form.isStream = false) (s : Session δ)
    (label : Nat) :
    s.call label c = s.afterResult c.form.answerOf
      ((c.form.turn s.router).2.dispatch c.form.operation (c.form.turn s.router).1 c.sql) := by
  obtain ⟨form, sql⟩ := c
  cases form with
  | stream => simp [CallForm.isStream] at h
  | streamFromWrite => simp [CallForm.isStream] at h
  | _ => rfl

/-- A call that hands out a stream opens it in the pool that it asks. -/
theorem call_of_isStream {c : Call} (h : c.form.isStream = true) (s : Session δ) (label : Nat) :
    s.call label c = s.afterStream label
      ((c.form.turn s.router).2.streamIn (c.form.turn s.router).1 c.sql) := by
  obtain ⟨form, sql⟩ := c
  cases form with
  | stream => rfl
  | streamFromWrite => rfl
  | _ => simp [CallForm.isStream] at h

/-- A step leaves the streams under other labels as they are. -/
lemma streams_step_of_ne (s : Session δ) {next : Step} {label : Nat} (h : label ≠ next.label) :
    (s.step next).2.streams label = s.streams label := by
  cases next with
  | call l c =>
      rw [step]
      cases hstream : c.form.isStream with
      | false =>
          rw [call_of_not_isStream hstream]
          rfl
      | true =>
          rw [call_of_isStream hstream]
          exact Function.update_of_ne h _ _
  | poll l =>
      rw [step, poll]
      split
      · rfl
      · exact Function.update_of_ne h _ _

lemma shape_step (s : Session δ) (next : Step) : (s.step next).2.router.shape = s.router.shape := by
  cases next with
  | call label c =>
      rw [step]
      cases hstream : c.form.isStream with
      | false =>
          rw [call_of_not_isStream hstream]
          exact (Router.shape_dispatch c _ _).trans (c.form.shape_turn s.router)
      | true =>
          rw [call_of_isStream hstream]
          show Router.shape (Router.streamIn _ _ _).router = _
          rw [Router.streamIn_router, CallForm.shape_turn]
  | poll label =>
      rw [step, poll]
      split
      · rfl
      · rename_i stream _
        exact stream.shape_poll s.router

end Session

end SqlAccess
