import SqlAccess.Dao
import SqlAccess.Driver.Scripted
import SqlAccess.Proofs.Router.Draining
import SqlAccess.Proofs.Statement.Kind

/-!
# Reading rows at once and one by one

The rows that pass a filter can be had at once (`Dao.getAll`) or as a stream (`Dao.stream`).  The
two go different ways down to the driver: the one executes the statement and maps what comes back,
the other opens it and maps the rows as they are pulled.  **`Dao.stream_agrees`** says that the
stream, drained, comes to the same as the rows at once: the same statement goes to the same driver,
and the items are the rows that could be mapped, with the failure behind them where there is one.

There is one difference by nature.  Where the connection is lost after some rows, a stream has
handed the rows out already, unless the driver opens statements by executing them.
-/

namespace SqlAccess

variable {δ α : Type}

/-! ## What agreeing means -/

/-- Whether rows read at once and the items of a stream are what rows come to: the values of all
rows, or, where a row cannot be mapped, the failure, which in the stream is behind the values of the
rows in front. -/
def RowsAlike (mapper : Record → Except Error α) (rows : List Record)
    (atOnce : Except Error (List α)) (items : List (Except Error α)) : Prop :=
  (∀ values, atOnce = .ok values ↔ items = values.map .ok) ∧
    ∃ values failure, MapsTo mapper rows values failure ∧
      match failure with
      | none => atOnce = .ok values ∧ items = values.map .ok
      | some e => atOnce = .error e ∧ items = values.map .ok ++ [.error e]

/-- Whether both ways of reading say that they have failed, and nothing else. -/
def FailAlike (atOnce : Except Error (List α)) (items : List (Except Error α)) : Prop :=
  atOnce = .error (.execution .select) ∧ items = [.error (.execution .stream)]

/-- Whether rows read at once and the items of a stream are what the reply of a driver comes to. -/
def AlikeOnReply (mapper : Record → Except Error α) :
    Except Error Reply → Except Error (List α) → List (Except Error α) → Prop
  | .ok (.rows rows), atOnce, items => RowsAlike mapper rows atOnce items
  | .ok (.ack _), atOnce, items => atOnce = .ok [] ∧ items = []
  | .error _, atOnce, items => FailAlike atOnce items

/-- Whether rows read at once and the items of a stream are what the answer of a script comes to, or
its refusal once the driver has been shut down. -/
def AlikeOnAnswer (mapper : Record → Except Error α) (conduct : Conduct) :
    Except Error ScriptedAnswer → Except Error (List α) → List (Except Error α) → Prop
  | .ok (.rows rows), atOnce, items => RowsAlike mapper rows atOnce items
  | .ok (.ack _), atOnce, items => atOnce = .ok [] ∧ items = []
  | .ok (.failure _), atOnce, items => FailAlike atOnce items
  | .ok (.rowsThenFailure rows _), atOnce, items =>
    if conduct = .buffering then FailAlike atOnce items
    else atOnce = .error (.execution .select) ∧
      ∃ values failure, MapsTo mapper rows values failure ∧
        items = values.map .ok ++ [.error (failure.getD (.execution .stream))]
  | .error _, atOnce, items => FailAlike atOnce items

/-- Whether reading at once and draining the stream agree.  If the statement cannot be built, both
say why and nothing is sent.  Otherwise it goes to the driver whose turn it is, either way, and what
is read is alike in the sense of `alike`, which is given the driver and the statement.  Either way
the router comes out the same but for the time. -/
def Dao.ReadsAlike [Driver δ] (d : Dao α) (filter : FilterSource) (options : QueryOptions)
    (r : Router δ)
    (alike : δ → String → Except Error (List α) → List (Except Error α) → Prop) : Prop :=
  let atOnce := d.getAll filter options r
  let stream := d.stream filter options r
  ∃ items clock, stream.result.Drains stream.router items { atOnce.router with clock } ∧
    match Statement.select d.table filter options with
    | .error e =>
      atOnce.result = .error e.toError ∧ items = [.error e.toError] ∧ atOnce.router = r
    | .ok sql =>
      let (pool, later) := r.takeTurn
      let driver := later.driver pool
      atOnce.router = (later.setDriver pool (Driver.execute driver sql).2).later
        (Driver.executionTime driver) ∧
      alike driver sql atOnce.result items

/-! ## Rows that are mapped -/

lemma MapsTo.mapAll {d : Dao α} {rows : List Record} {values : List α} {failure : Option Error}
    (h : MapsTo d.mapper rows values failure) :
    d.mapAll (rows.map Record.collapse) =
      match failure with
      | none => .ok values
      | some e => .error e := by
  induction h with
  | all => rfl
  | @row row rows a values failure h _ ih =>
      rw [List.map_cons, Dao.mapAll, h, ih]
      cases failure <;> rfl
  | failure h =>
      rw [List.map_cons, Dao.mapAll, h]
      rfl

/-- Mapped at once or one by one, rows come to the same. -/
lemma rowsAlike (d : Dao α) (rows : List Record) :
    RowsAlike d.mapper rows (d.mapAll (rows.map Record.collapse))
      (handedOut d.mapper (rows.map .ok)) := by
  obtain ⟨values, failure, hmaps⟩ := exists_mapsTo d.mapper rows
  have hitems := hmaps.handedOut []
  rw [List.append_nil] at hitems
  rw [hmaps.mapAll, hitems]
  cases failure with
  | none =>
      refine ⟨fun values' => ?_, values, none, hmaps, rfl, List.append_nil _⟩
      simp only [handedOut, List.append_nil]
      rw [Except.ok.injEq, List.map_inj_right fun _ _ => Except.ok.inj]
  | some e =>
      refine ⟨fun values' => ⟨fun h => by simp at h, fun h => ?_⟩, values, some e, hmaps, rfl, rfl⟩
      have hfailure : (.error e : Except Error α) ∈ values'.map .ok := by
        rw [← h]
        simp
      simp at hfailure

/-! ## What drivers answer -/

lemma openBuffered_eq (execute : δ → String → Except Error Reply × δ) (d : δ) (sql : String) :
    openBuffered execute d sql =
      (.ready ((execute d sql).1.map fun reply => .ofRows reply.toRows), (execute d sql).2) := by
  rw [openBuffered]
  rcases execute d sql with ⟨_ | _, _⟩ <;> rfl

namespace ScriptedDriver

/-- The items that are opened for an answer of the script. -/
def openedAs (conduct : Conduct) (answer : ScriptedAnswer) :
    Except Error (List (Except Error Record)) :=
  if conduct = .buffering then (replyOf answer).map fun reply => reply.toRows.map .ok
  else match answer with
    | .rows rows => .ok (rows.map .ok)
    | .ack _ => .ok []
    | .failure text => .error (.driver text)
    | .rowsThenFailure rows text => .ok (rows.map .ok ++ [.error (.driver text)])

lemma execute_eq (d : ScriptedDriver) (sql : String) :
    Driver.execute d sql = ((d.receive sql).1.bind replyOf, (d.receive sql).2) := by
  show d.execute sql = _
  rw [execute]
  rcases d.receive sql with ⟨_ | _, _⟩ <;> rfl

lemma pollOpen_eq (d : ScriptedDriver) (sql : String) (polls : Nat) :
    Driver.pollOpen d sql polls =
      (.ready (((d.receive sql).1.bind (openedAs d.conduct)).map .ofItems),
        (d.receive sql).2) := by
  show d.openAs sql = _
  have hexecute : d.execute sql = _ := d.execute_eq sql
  rw [openAs, openBuffered_eq, hexecute, openRows]
  rcases d.receive sql with ⟨e | answer, later⟩
  · cases d.conduct <;> rfl
  · cases answer <;> cases d.conduct <;> rfl

end ScriptedDriver

/-! ## What both ways make of the driver -/

namespace Dao

/-- The rows at once, out of what executing the statement came to. -/
def atOnceOf (d : Dao α) (executed : Except Error Reply) : Except Error (List α) :=
  match executed with
  | .ok reply => d.mapAll (reply.toRows.map Record.collapse)
  | .error _ => .error (.execution .select)

/-- The items of the stream, out of what opening the statement came to. -/
def itemsOf (d : Dao α) (opened : Except Error (List (Except Error Record))) :
    List (Except Error α) :=
  match opened with
  | .ok items => handedOut d.mapper items
  | .error _ => [.error (.execution .stream)]

section Ways

variable [Driver δ] {d : Dao α} {filter : FilterSource} {options : QueryOptions} {sql : String}
  {r later : Router δ} {pool : PoolRef}

/-- The statement that is built is accepted by all reads that any pool may serve. -/
lemma isAccepted_of_select (h : Statement.select d.table filter options = .ok sql)
    {form : CallForm} (hread : form.isPoolRead = true) : Call.isAccepted ⟨form, sql⟩ = true := by
  have hselect := Statement.classify_of_select h
  cases form <;> simp_all [CallForm.isPoolRead, Call.isAccepted, CallForm.operation,
    Operation.kind?, StatementKind.isAcceptedAs]

/-- Rows are read at once by executing the statement. -/
lemma getAll_of_select (h : Statement.select d.table filter options = .ok sql)
    (hturn : r.takeTurn = (pool, later)) :
    (d.getAll filter options r).result =
        d.atOnceOf (Driver.execute (later.driver pool) sql).1 ∧
      (d.getAll filter options r).router =
        (later.setDriver pool (Driver.execute (later.driver pool) sql).2).later
          (Driver.executionTime (later.driver pool)) := by
  have haccepted : Call.isAccepted ⟨.selectAll, sql⟩ = true := isAccepted_of_select h rfl
  have hsend : later.dispatch .select pool sql = later.send .select pool sql :=
    Router.dispatch_of_isAccepted haccepted pool later
  have hgetAll : d.getAll filter options r = d.all ((later.send .select pool sql).map
      fun result => (result.map (Reply.select .all)).map Selection.toList) := by
    rw [getAll, h, withBuilt, Router.selectAll, Router.select, hturn, ← hsend]
    rfl
  rw [hgetAll]
  refine ⟨?_, Router.send_router .select pool sql later⟩
  show Except.bind (((Router.send _ _ _ _).result.map _).map _) _ = _
  rw [Router.send_result]
  cases (Driver.execute (later.driver pool) sql).1 <;> rfl

/-- A stream of rows is still to open the statement. -/
lemma stream_of_select (h : Statement.select d.table filter options = .ok sql)
    (hturn : r.takeTurn = (pool, later)) :
    ∃ t : RoutedStream, t.state = .opening 0 ∧ t.pool = pool ∧ t.sql = sql ∧
      (d.stream filter options r).result = .ofRows (.routed t) d.mapper ∧
      (d.stream filter options r).router = later := by
  have haccepted : Call.isAccepted ⟨.stream, sql⟩ = true := isAccepted_of_select h rfl
  have hstream : d.stream filter options r =
      (later.streamIn pool sql).map fun rows => .ofRows rows d.mapper := by
    rw [stream, h, streamOf, Router.stream, hturn]
  have hopening := Router.streamIn_of_isAccepted rfl haccepted pool later
  rw [hstream]
  exact ⟨_, rfl, rfl, rfl, congrArg (RecordStream.ofRows · d.mapper) hopening,
    later.streamIn_router pool sql⟩

/-- A stream whose statement is opened from a list, or not at all, is drained. -/
lemma drains_itemsOf (d : Dao α) {opened : Except Error (List (Except Error Record))}
    {t : RoutedStream} (hstate : t.state = .opening 0)
    (hopened : (Driver.pollOpen (r.driver t.pool) t.sql 0).1 = .ready (opened.map .ofItems)) :
    (RecordStream.ofRows (.routed t) d.mapper).Drains r (d.itemsOf opened)
      (t.routerOpened 0 r) := by
  cases opened with
  | ok items => exact RecordStream.drains_opened hstate hopened d.mapper
  | error e => exact RecordStream.drains_openingFailed hstate hopened d.mapper

/-- Both ways agree if opening a statement and executing it leave the same driver, and what they
answer is alike once it is mapped. -/
lemma readsAlike_of_opened
    {alike : δ → String → Except Error (List α) → List (Except Error α) → Prop}
    (h : ∀ pool later sql, r.takeTurn = (pool, later) →
      ∃ opened : Except Error (List (Except Error Record)),
        Driver.pollOpen (later.driver pool) sql 0 =
          (.ready (opened.map .ofItems), (Driver.execute (later.driver pool) sql).2) ∧
        alike (later.driver pool) sql (d.atOnceOf (Driver.execute (later.driver pool) sql).1)
          (d.itemsOf opened)) :
    d.ReadsAlike filter options r alike := by
  rw [ReadsAlike]
  cases hbuilt : Statement.select d.table filter options with
  | error e =>
      have hatOnce : d.getAll filter options r =
          ⟨.error e.toError, r, [.notBuilt d.tableName e.toError]⟩ := by
        rw [getAll, hbuilt, withBuilt]
      have hstream : d.stream filter options r =
          ⟨.ofRows (.ofError e.toError) d.mapper, r, [.notBuilt d.tableName e.toError]⟩ := by
        rw [stream, hbuilt, streamOf]
      rw [hatOnce, hstream]
      exact ⟨_, r.clock, RecordStream.drains_ofError e.toError d.mapper r, rfl, rfl, rfl⟩
  | ok sql =>
      rcases hturn : r.takeTurn with ⟨pool, later⟩
      obtain ⟨opened, hopen, halike⟩ := h pool later sql hturn
      obtain ⟨hresult, hrouter⟩ := getAll_of_select hbuilt hturn
      obtain ⟨t, hstate, rfl, rfl, hstream, hlater⟩ := stream_of_select hbuilt hturn
      have hdrains := d.drains_itemsOf hstate (congrArg Prod.fst hopen)
      have hdrained : t.routerOpened 0 later =
          { (d.getAll filter options r).router with clock := (t.routerOpened 0 later).clock } := by
        rw [hrouter, RoutedStream.routerOpened, hopen]
        rfl
      rw [hdrained, ← hstream] at hdrains
      subst hlater
      exact ⟨d.itemsOf opened, _, hdrains, hrouter, hresult ▸ halike⟩

end Ways

/-! ## Agreeing -/

/-- What comes of a reply, where statements are opened by executing them. -/
lemma alikeOnReply (d : Dao α) (executed : Except Error Reply) :
    AlikeOnReply d.mapper executed (d.atOnceOf executed)
      (d.itemsOf (executed.map fun reply => reply.toRows.map .ok)) := by
  match executed with
  | .ok (.rows rows) => exact rowsAlike d rows
  | .ok (.ack _) => exact ⟨rfl, rfl⟩
  | .error _ => exact ⟨rfl, rfl⟩

/-- What comes of an answer of a script. -/
lemma alikeOnAnswer (d : Dao α) (conduct : Conduct) (answer : Except Error ScriptedAnswer) :
    AlikeOnAnswer d.mapper conduct answer (d.atOnceOf (answer.bind ScriptedDriver.replyOf))
      (d.itemsOf (answer.bind (ScriptedDriver.openedAs conduct))) := by
  match answer with
  | .error _ => exact ⟨rfl, rfl⟩
  | .ok (.rows rows) => cases conduct <;> exact rowsAlike d rows
  | .ok (.ack _) => cases conduct <;> exact ⟨rfl, rfl⟩
  | .ok (.failure _) => cases conduct <;> exact ⟨rfl, rfl⟩
  | .ok (.rowsThenFailure rows text) =>
      show if conduct = .buffering then _ else _
      split_ifs with hconduct
      · subst hconduct
        exact ⟨rfl, rfl⟩
      · obtain ⟨values, failure, hmaps⟩ := exists_mapsTo d.mapper rows
        refine ⟨rfl, values, failure, hmaps, ?_⟩
        have hopened : ScriptedDriver.openedAs conduct (.rowsThenFailure rows text) =
            .ok (rows.map .ok ++ [.error (.driver text)]) := if_neg hconduct
        show d.itemsOf (ScriptedDriver.openedAs conduct _) = _
        rw [hopened, itemsOf, hmaps.handedOut]
        cases failure <;> rfl

/-- Both ways of reading agree where drivers open statements by executing them. -/
lemma readsAlike_of_openBuffered [Driver δ] {r : Router δ}
    (h : ∀ driver ∈ r.drivers, ∀ sql,
      Driver.pollOpen driver sql 0 = openBuffered Driver.execute driver sql)
    (d : Dao α) (filter : FilterSource) (options : QueryOptions) :
    d.ReadsAlike filter options r fun driver sql =>
      AlikeOnReply d.mapper (Driver.execute driver sql).1 := by
  refine readsAlike_of_opened fun pool later sql hturn => ?_
  have hdriver : later.driver pool ∈ r.drivers := Router.driver_mem_of_takeTurn hturn
  refine ⟨_, ?_, d.alikeOnReply _⟩
  rw [h _ hdriver, openBuffered_eq]
  cases (Driver.execute (later.driver pool) sql).1 <;> rfl

/-- **A stream agrees with the rows at once**, whatever the router, the filter, the options and the
mapper: on every answer of a script, and on every reply of drivers that open statements by executing
them.  A stream drains in one way only (`RecordStream.Drains.unique`), so these are its items. -/
theorem stream_agrees [Driver δ] (d : Dao α) (filter : FilterSource) (options : QueryOptions) :
    (∀ r : Router ScriptedDriver, d.ReadsAlike filter options r fun driver sql =>
      AlikeOnAnswer d.mapper driver.conduct (driver.receive sql).1) ∧
    ∀ r : Router δ,
      (∀ driver ∈ r.drivers, ∀ sql,
        Driver.pollOpen driver sql 0 = openBuffered Driver.execute driver sql) →
      d.ReadsAlike filter options r fun driver sql =>
        AlikeOnReply d.mapper (Driver.execute driver sql).1 := by
  refine ⟨fun r => readsAlike_of_opened fun pool later sql _ => ?_,
    fun r h => readsAlike_of_openBuffered h d filter options⟩
  rw [ScriptedDriver.execute_eq]
  exact ⟨_, ScriptedDriver.pollOpen_eq _ sql 0, d.alikeOnAnswer _ _⟩

/-- A driver that opens statements by executing them hands no row out if the connection is lost
behind it. -/
theorem stream_agrees_of_lostConnection :
    let d : Dao Record := ⟨"users", ⟨[.bare "users"]⟩, .ok⟩
    let driver : ScriptedDriver :=
      { ScriptedDriver.ofScript "write" [.rowsThenFailure [⟨[("id", .int 1)]⟩] "gone"] with
        conduct := .buffering }
    let r := Router.ofDrivers driver [] ⟨.first, none, none⟩
    let stream := d.stream (.filter .empty) .none r
    (∀ driver ∈ r.drivers, ∀ sql,
      Driver.pollOpen driver sql 0 = openBuffered Driver.execute driver sql) ∧
    (d.getAll (.filter .empty) .none r).result = .error (.execution .select) ∧
    ∃ drained, stream.result.Drains stream.router [.error (.execution .stream)] drained := by
  intro d driver r stream
  have hbuffers : ∀ driver ∈ r.drivers, ∀ sql,
      Driver.pollOpen driver sql 0 = openBuffered Driver.execute driver sql := by
    intro other hother sql
    obtain rfl : other = driver := List.mem_singleton.mp hother
    rfl
  have hbuilt : Statement.select d.table (.filter .empty) .none = .ok "SELECT * FROM users" :=
    toOption_eq_some.mp (by decide +kernel)
  obtain ⟨items, clock, hdrains, hagree⟩ :=
    (stream_agrees d (.filter .empty) .none).2 r hbuffers
  rw [hbuilt] at hagree
  obtain ⟨-, hresult, rfl⟩ := hagree
  exact ⟨hbuffers, hresult, _, hdrains⟩

end Dao

end SqlAccess
