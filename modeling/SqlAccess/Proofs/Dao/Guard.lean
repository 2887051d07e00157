import SqlAccess.Dao
import SqlAccess.Driver.Scripted
import SqlAccess.Proofs.Router.Refusals
import SqlAccess.Proofs.Statement.Faults
import SqlAccess.Proofs.Statement.Kind

/-!
# No statement that is built is refused for its kind

A data access object builds the statement of an operation and hands it to a call of the router, and
the call refuses statements that are not of its kind.  **`Dao.passes_guard`** says that this never
happens: the guard accepts whatever is built, so an operation fails because its statement cannot be
built, because the driver fails, because of what a row holds, or as the caller's own code fails.

The caller's own code may answer any failure, that of a wrong kind too (`Dao.fails_as_callers`).  An
operation hands it on as it is, and there are two places for it: an argument that is something of
the caller's own (`Request.OwnFails`), and the mapper, for a row that the driver has delivered
(`Dao.Task.MapperFails`).
-/

namespace SqlAccess

variable {δ α β γ : Type}

/-! ## What is delivered -/

/-- Whether a row is delivered for a call: in the reply of the driver that the call asks or, if the
call hands out a stream, from a source that this pool's driver opens.  `routers` is the router that
each poll of the stream finds. -/
def Call.Delivers [Driver δ] (c : Call) (r : Router δ) (routers : Nat → Router δ) (row : Record) :
    Prop :=
  let pool := (c.form.turn r).1
  if c.form.isStream then
    ∃ n source polls, (Driver.pollOpen ((routers n).driver pool) c.sql n).1 = .ready (.ok source) ∧
      source.answers (source.polls + polls) = .ready (some (.ok row))
  else ∃ reply, (Driver.execute (r.driver pool) c.sql).1 = .ok reply ∧ row ∈ reply.toRows

/-! ## What the router answers to statements of the right kind -/

/-- Two operations fail as the first, or as the second on what the first has answered. -/
lemma Outcome.andThenOk_error {o : Outcome δ (Except Error β)}
    {f : β → Router δ → Outcome δ (Except Error γ)} {e : Error}
    (h : (o.andThenOk f).result = .error e) :
    o.result = .error e ∨ ∃ b r, o.result = .ok b ∧ (f b r).result = .error e := by
  unfold andThenOk andThen at h
  cases hfirst : o.result with
  | error cause =>
      rw [hfirst] at h
      exact .inl (congrArg Except.error (Except.error.inj h))
  | ok b =>
      rw [hfirst] at h
      exact .inr ⟨b, _, rfl, h⟩

section Calls

variable [Driver δ] {r : Router δ} {sql : String} {e : Error}

lemma Router.change_error {form : CallForm} (haccepted : Call.isAccepted ⟨form, sql⟩ = true)
    (h : (r.change form.operation sql).result = .error e) : e.isKindRefusal = false :=
  dispatch_error (c := ⟨form, sql⟩) haccepted (map_eq_error.mp h)

lemma Call.isAccepted_of_classify {form : CallForm}
    (hform : form.operation = .select ∨ form.operation = .stream)
    (hsql : Sql.classify sql = .select) : Call.isAccepted ⟨form, sql⟩ = true := by
  rcases hform with h | h <;>
    simp [isAccepted, h, Operation.kind?, hsql, StatementKind.isAcceptedAs]

/-- What a call of a form that selects hands out.  The four of them differ in the pool, the extent,
and what is told of the selected rows. -/
def Router.selected (form : CallForm) (extent : Extent) (f : Selection → β) (sql : String)
    (r : Router δ) : Outcome δ (Except Error β) :=
  ((form.turn r).2.selectIn (form.turn r).1 extent sql).map fun result => result.map f

section Selects

variable {form : CallForm} {extent : Extent} {f : Selection → β}

/-- **A select of the right kind**, in whatever form it is made, hands out what the driver replies,
and fails as the driver fails. -/
lemma Router.selected_result (hform : form.operation = .select)
    (hsql : Sql.classify sql = .select) :
    (r.selected form extent f sql).result =
      ((Driver.execute (r.driver (form.turn r).1) sql).1.mapError fun _ => .execution .select).map
        fun reply => f (reply.select extent) := by
  have haccepted : Call.isAccepted ⟨form, sql⟩ = true :=
    Call.isAccepted_of_classify (.inl hform) hsql
  have hsend := dispatch_of_isAccepted haccepted (form.turn r).1 (form.turn r).2
  have hdriver : (form.turn r).2.driver (form.turn r).1 = r.driver (form.turn r).1 := by
    rw [form.turn_router]
    rfl
  rw [hform] at hsend
  show (((form.turn r).2.dispatch .select (form.turn r).1 sql).result.map _).map f = _
  rw [hsend, send_result, hdriver]
  cases (Driver.execute (r.driver (form.turn r).1) sql).1 <;> rfl

lemma Router.selected_ok (hform : form.operation = .select) (hsql : Sql.classify sql = .select)
    {b : β} (h : (r.selected form extent f sql).result = .ok b) :
    ∃ reply, (Driver.execute (r.driver (form.turn r).1) sql).1 = .ok reply ∧
      f (reply.select extent) = b := by
  rw [selected_result hform hsql] at h
  obtain ⟨reply, hexecute, hreply⟩ := map_eq_ok.mp h
  exact ⟨reply, mapError_eq_ok.mp hexecute, hreply⟩

lemma Router.selected_error (hform : form.operation = .select)
    (hsql : Sql.classify sql = .select) (h : (r.selected form extent f sql).result = .error e) :
    e.isKindRefusal = false := by
  have haccepted : Call.isAccepted ⟨form, sql⟩ = true :=
    Call.isAccepted_of_classify (.inl hform) hsql
  have hfails : ((form.turn r).2.dispatch .select (form.turn r).1 sql).result = .error e :=
    map_eq_error.mp (map_eq_error.mp h)
  rw [← hform] at hfails
  exact dispatch_error haccepted hfails

/-- What is made of the rows of a select fails for a kind only as it does for the driver's rows. -/
lemma Router.selected_bind_error (hform : form.operation = .select)
    (hsql : Sql.classify sql = .select) {g : β → Except Error γ}
    (hrefusal : e.isKindRefusal = true)
    (h : ((r.selected form extent f sql).map fun result => result.bind g).result = .error e) :
    ∃ reply, (Driver.execute (r.driver (form.turn r).1) sql).1 = .ok reply ∧
      g (f (reply.select extent)) = .error e := by
  rcases bind_eq_error.mp h with hfails | ⟨b, hselected, hg⟩
  · simp [selected_error hform hsql hfails] at hrefusal
  · obtain ⟨reply, hexecute, rfl⟩ := selected_ok hform hsql hselected
    exact ⟨reply, hexecute, hg⟩

end Selects

end Calls

/-! ## What building fails with -/

/-- Building fails for a kind only as something of the caller's own. -/
lemma FailsAs.of_isKindRefusal {own : Error → Prop} {cause : StatementError}
    (h : FailsAs StatementError.toError own (.error cause : Except StatementError β))
    (hrefusal : cause.toError.isKindRefusal = true) : own cause.toError := by
  rcases h cause rfl with ⟨text, htext⟩ | hown
  · simp [htext, Error.isKindRefusal] at hrefusal
  · exact hown

/-! ## What rows are mapped to -/

namespace Dao

variable {d : Dao α} {e : Error} {reply : Reply}

lemma mapAll_error {rows : List Record} (h : d.mapAll rows = .error e) :
    ∃ row ∈ rows, d.mapper row = .error e := by
  induction rows with
  | nil => simp [mapAll] at h
  | cons row rows ih =>
      rcases bind_eq_error.mp h with hrow | ⟨a, -, h⟩
      · exact ⟨row, List.mem_cons_self, hrow⟩
      · rcases bind_eq_error.mp h with hrows | ⟨others, -, h⟩
        · obtain ⟨other, hother, hfails⟩ := ih hrows
          exact ⟨other, List.mem_cons_of_mem row hother, hfails⟩
        · simp at h

/-- All rows of a reply fail to be mapped as one of them. -/
lemma mapAll_select_error (h : d.mapAll (reply.select .all).toList = .error e) :
    ∃ row ∈ reply.toRows, d.mapper row.collapse = .error e := by
  obtain ⟨row, hrow, hfails⟩ := mapAll_error h
  obtain ⟨delivered, hdelivered, rfl⟩ := List.mem_map.mp hrow
  exact ⟨delivered, hdelivered, hfails⟩

/-- The first row of a reply fails to be mapped. -/
lemma mapOne_select_error (h : d.mapOne (reply.select .one).first = .error e) :
    ∃ row ∈ reply.toRows, d.mapper row.collapse = .error e := by
  cases hrows : reply.toRows with
  | nil => simp [Reply.select, Selection.first, hrows, mapOne] at h
  | cons row rows =>
      have hrow : (d.mapper row.collapse).map some = .error e := by
        simpa [Reply.select, Selection.first, hrows, mapOne] using h
      exact ⟨row, List.mem_cons_self, map_eq_error.mp hrow⟩

lemma countOf_error {row : Option Record} (h : countOf row = .error e) :
    e.isKindRefusal = false := by
  cases row with
  | none => simp [countOf] at h
  | some row =>
      rcases bind_eq_error.mp h with hrequire | ⟨value, -, hread⟩
      · unfold Record.require at hrequire
        split at hrequire
        · obtain rfl := Except.error.inj hrequire
          rfl
        · simp at hrequire
      · cases hvalue : (ofValue value : Except ExtractError UInt64) with
        | ok n => simp [hvalue, Except.mapError] at hread
        | error cause =>
            rw [hvalue] at hread
            obtain rfl := Except.error.inj hread
            rfl

end Dao

/-! ## Streams -/

/-- **A stream of a router fails as an operation, or as the mapper does for a row** of a source that
the driver has opened. -/
lemma RecordStream.answer_error [Driver δ] {mapper : Record → Except Error α} {pool : PoolRef}
    {sql : String} {start n : Nat} {routers : Nat → Router δ} {e : Error}
    (h : (RecordStream.ofRows (.routed ⟨.opening 0, pool, sql, start, 0⟩) mapper).answer routers n =
      .ready (some (.error e))) :
    e = .execution .stream ∨ ∃ m source polls row,
      (Driver.pollOpen ((routers m).driver pool) sql m).1 = .ready (.ok source) ∧
        source.answers (source.polls + polls) = .ready (some (.ok row)) ∧
        mapper row.collapse = .error e := by
  obtain ⟨o, hopens⟩ := exists_opens routers pool sql n
  have hstart := standsAt_start mapper pool sql o start
  by_cases hover : ∃ m < n, IsFinal (told mapper (o.incoming m))
  · have hterminated := (hstart.isTerminated_after hopens).mpr hover
    rw [answer, poll_of_isTerminated hterminated] at h
    simp [Outcome.pure] at h
  · have hstands := hstart.after hopens fun m hm hfinal => hover ⟨m, hm, hfinal⟩
    have htold : told mapper (o.incoming n) = .ready (some (.error e)) :=
      (hstands.poll hopens).1.symm.trans h
    cases hincoming : o.incoming n with
    | pending => simp [hincoming, told] at htold
    | ready item =>
        rcases item with _ | cause | row
        · simp [hincoming, told] at htold
        · obtain rfl : .execution .stream = e := by simpa [hincoming, told] using htold
          exact .inl rfl
        · have hmapper : mapper row.collapse = .error e := by simpa [hincoming, told] using htold
          rw [Opening.incoming] at hincoming
          split_ifs at hincoming with hwait
          cases hopened : o.opened with
          | error cause => simp [hopened] at hincoming
          | ok source =>
              have hready := hopens.ready (Nat.le_of_not_lt hwait)
              rw [hopened] at hready hincoming
              exact .inr ⟨o.wait, source, _, row, hready, hincoming, hmapper⟩

/-- A stream that tells of a failure and nothing else fails so. -/
lemma RecordStream.answer_ofError [Driver δ] {mapper : Record → Except Error α} {cause e : Error}
    {routers : Nat → Router δ} {n : Nat}
    (h : (RecordStream.ofRows (.ofError cause) mapper).answer routers n =
      .ready (some (.error e))) : cause = e := by
  cases n with
  | zero => simpa [answer, after, poll, ofRows, RowStream.ofError, RowStream.poll, RowSource.poll,
      RowSource.ofItems, Outcome.map, Outcome.pure, answerOf, Except.bind] using h
  | succ n =>
      have hover : ((RecordStream.ofRows (.ofError cause) mapper).after routers
          (n + 1)).isTerminated = true :=
        (isTerminated_after rfl routers (n + 1)).mpr ⟨0, Nat.succ_pos n, .inr ⟨cause, rfl⟩⟩
      rw [answer, poll_of_isTerminated hover] at h
      simp [Outcome.pure] at h

/-! ## Operations -/

namespace Dao

/-- Whether the mapper answers a failure to a row that is delivered for a request, where a call of
some form asks for the rows. -/
def MapperFailsOn [Driver δ] (d : Dao α) (r : Router δ) (routers : Nat → Router δ) (e : Error)
    (form : CallForm) (request : Request) : Prop :=
  ∃ sql row, request.build d.table = .ok sql ∧ Call.Delivers ⟨form, sql⟩ r routers row ∧
    d.mapper row.collapse = .error e

/-- An operation on a table for which a statement is built. -/
inductive Task where
  | getOne (filter : FilterSource) (options : QueryOptions)
  | getOneFromWrite (filter : FilterSource) (options : QueryOptions)
  | getAll (filter : FilterSource) (options : QueryOptions)
  | getAllFromWrite (filter : FilterSource) (options : QueryOptions)
  | getCount (filter : FilterSource)
  | getCountFromWrite (filter : FilterSource)
  | getPage (filter : FilterSource) (options : QueryOptions)
  | getPageFromWrite (filter : FilterSource) (options : QueryOptions)
  | create (row : RecordSource) (mode : InsertMode)
  | createBulk (rows : List RecordSource) (mode : InsertMode)
  | upsert (row : RecordSource) (onDuplicate : OnDuplicate)
  | upsertBulk (rows : List RecordSource) (onDuplicate : OnDuplicate)
  | updateOne (filter : FilterSource) (args : RecordSource)
  | updateAll (filter : FilterSource) (args : RecordSource)
  | deleteOne (filter : FilterSource)
  | deleteAll (filter : FilterSource)
  | stream (filter : FilterSource) (options : QueryOptions)
  | streamFromWrite (filter : FilterSource) (options : QueryOptions)

namespace Task

/-- The request for the statement of an operation, and for the rows of a page. -/
def request : Task → Request
  | .getOne filter options | .getOneFromWrite filter options => .select filter options
  | .getAll filter options | .getAllFromWrite filter options => .select filter options
  | .getPage filter options | .getPageFromWrite filter options => .select filter options
  | .stream filter options | .streamFromWrite filter options => .select filter options
  | .getCount filter | .getCountFromWrite filter => .count filter
  | .create row mode => .insertOne row mode
  | .createBulk rows mode => .insert rows mode
  | .upsert row onDuplicate => .upsert row onDuplicate
  | .upsertBulk rows onDuplicate => .upsertBulk rows onDuplicate
  | .updateOne filter args => .updateOne filter args
  | .updateAll filter args => .update filter args
  | .deleteOne filter => .deleteOne filter
  | .deleteAll filter => .delete filter

/-- The call whose rows an operation maps, if it maps any. -/
def mapped? : Task → Option CallForm
  | .getOne _ _ => some .selectOne
  | .getOneFromWrite _ _ => some .selectOneFromWrite
  | .getAll _ _ | .getPage _ _ => some .selectAll
  | .getAllFromWrite _ _ | .getPageFromWrite _ _ => some .selectAllFromWrite
  | .stream _ _ => some .stream
  | .streamFromWrite _ _ => some .streamFromWrite
  | _ => none

variable [Driver δ]

/-- Whether an operation fails so, at once or, if it hands out a stream, at a poll of the stream,
where `routers` is the router that each poll finds. -/
def Fails (d : Dao α) (r : Router δ) (routers : Nat → Router δ) (e : Error) : Task → Prop
  | .getOne filter options => (d.getOne filter options r).result = .error e
  | .getOneFromWrite filter options => (d.getOneFromWrite filter options r).result = .error e
  | .getAll filter options => (d.getAll filter options r).result = .error e
  | .getAllFromWrite filter options => (d.getAllFromWrite filter options r).result = .error e
  | .getCount filter => (d.getCount filter r).result = .error e
  | .getCountFromWrite filter => (d.getCountFromWrite filter r).result = .error e
  | .getPage filter options => (d.getPage filter options r).result = .error e
  | .getPageFromWrite filter options => (d.getPageFromWrite filter options r).result = .error e
  | .create row mode => (d.create row mode r).result = .error e
  | .createBulk rows mode => (d.createBulk rows mode r).result = .error e
  | .upsert row onDuplicate => (d.upsert row onDuplicate r).result = .error e
  | .upsertBulk rows onDuplicate => (d.upsertBulk rows onDuplicate r).result = .error e
  | .updateOne filter args => (d.updateOne filter args r).result = .error e
  | .updateAll filter args => (d.updateAll filter args r).result = .error e
  | .deleteOne filter => (d.deleteOne filter r).result = .error e
  | .deleteAll filter => (d.deleteAll filter r).result = .error e
  | .stream filter options =>
    ∃ n, (d.stream filter options r).result.answer routers n = .ready (some (.error e))
  | .streamFromWrite filter options =>
    ∃ n, (d.streamFromWrite filter options r).result.answer routers n = .ready (some (.error e))

/-- Whether the mapper answers a failure to a row that is delivered for the statement of an
operation. -/
def MapperFails (d : Dao α) (r : Router δ) (routers : Nat → Router δ) (e : Error)
    (task : Task) : Prop :=
  ∃ form, task.mapped? = some form ∧ d.MapperFailsOn r routers e form task.request

end Task

section Operations

variable {d : Dao α} {r : Router δ} {e : Error} {own : Error → Prop}

/-- An operation fails for a kind as building does, and else as what is done with the statement. -/
lemma withBuilt_error {built : Except StatementError β}
    {f : β → Router δ → Outcome δ (Except Error γ)}
    (hbuilt : FailsAs StatementError.toError own built) (hrefusal : e.isKindRefusal = true)
    (h : (d.withBuilt built r f).result = .error e) :
    own e ∨ ∃ b, built = .ok b ∧ (f b r).result = .error e := by
  cases built with
  | ok b => exact .inr ⟨b, rfl, h⟩
  | error cause =>
      obtain rfl := Except.error.inj h
      exact .inl (hbuilt.of_isKindRefusal hrefusal)

/-- A page fails to be built as the filter does. -/
lemma failsAs_pageStatements (d : Dao α) (filter : FilterSource) (options : QueryOptions) :
    FailsAs StatementError.toError (fun e => filter = .own (.error e))
      (d.pageStatements filter options) := by
  refine .bind (failsAs_statementFilter fun e h => h) fun f => ?_
  refine .bind (Statement.failsAs_select fun e h => by simp at h) fun _ => ?_
  exact .bind (Statement.failsAs_count fun e h => by simp at h) fun _ => .ok _

/-- The statements of a page are those that are built for its rows and their count. -/
lemma pageStatements_eq_ok {filter : FilterSource} {options : QueryOptions}
    {statements : String × String} (h : d.pageStatements filter options = .ok statements) :
    Statement.select d.table filter options = .ok statements.1 ∧
      Statement.count d.table filter = .ok statements.2 := by
  obtain ⟨f, hfilter, h⟩ := bind_eq_ok.mp h
  obtain ⟨select, hselect, h⟩ := bind_eq_ok.mp h
  obtain ⟨count, hcount, h⟩ := bind_eq_ok.mp h
  obtain rfl := Except.ok.inj h
  have hsame : statementFilter (.filter f) = statementFilter filter := hfilter.symm
  rw [Statement.select, hsame] at hselect
  rw [Statement.count, hsame] at hcount
  exact ⟨hselect, hcount⟩

variable [Driver δ] {routers : Nat → Router δ} {filter : FilterSource} {options : QueryOptions}

/-- A row that is mapped for a select is delivered for it. -/
lemma delivers_of_execute {form : CallForm} (hform : form.operation = .select) {sql : String}
    {reply : Reply} (hexecute : (Driver.execute (r.driver (form.turn r).1) sql).1 = .ok reply)
    {row : Record} (hrow : row ∈ reply.toRows) : Call.Delivers ⟨form, sql⟩ r routers row := by
  have hstream : form.isStream = false := by
    cases form <;> simp_all [CallForm.operation, CallForm.isStream]
  simp only [Call.Delivers, hstream]
  exact ⟨reply, hexecute, hrow⟩

/-- **Rows that are read at once** fail for a kind as the filter does, or as the mapper does for a
row that is delivered. -/
lemma read_error (form : CallForm) (hform : form.operation = .select) {extent : Extent}
    {f : Selection → β} {g : β → Except Error γ} (hrefusal : e.isKindRefusal = true)
    (hmapped : ∀ reply : Reply, g (f (reply.select extent)) = .error e →
      ∃ row ∈ reply.toRows, d.mapper row.collapse = .error e)
    (h : (d.withBuilt (Statement.select d.table filter options) r fun sql r =>
      (r.selected form extent f sql).map fun result => result.bind g).result = .error e) :
    filter = .own (.error e) ∨ d.MapperFailsOn r routers e form (.select filter options) := by
  rcases withBuilt_error (Statement.failsAs_select fun e h => h) hrefusal h with hown | hselected
  · exact .inl hown
  · obtain ⟨sql, hsql, h⟩ := hselected
    obtain ⟨reply, hexecute, hreply⟩ :=
      Router.selected_bind_error hform (Statement.classify_of_select hsql) hrefusal h
    obtain ⟨row, hrow, hfails⟩ := hmapped reply hreply
    exact .inr ⟨sql, row, hsql, delivers_of_execute hform hexecute hrow, hfails⟩

/-- A count fails for a kind as the filter does only. -/
lemma counting_error (form : CallForm) (hform : form.operation = .select)
    (hrefusal : e.isKindRefusal = true)
    (h : (d.withBuilt (Statement.count d.table filter) r fun sql r =>
      count (r.selected form .one Selection.first sql)).result = .error e) :
    filter = .own (.error e) := by
  rcases withBuilt_error (Statement.failsAs_count fun e h => h) hrefusal h with hown | hcounted
  · exact hown
  · obtain ⟨sql, hsql, h⟩ := hcounted
    obtain ⟨reply, -, hreply⟩ :=
      Router.selected_bind_error hform (Statement.classify_of_count hsql) hrefusal h
    simp [countOf_error hreply] at hrefusal

/-- **A page** fails for a kind as the filter does, or as the mapper does for a row that is
delivered. -/
lemma page_error (form countForm : CallForm) (hform : form.operation = .select)
    (hcount : countForm.operation = .select) (hrefusal : e.isKindRefusal = true)
    (h : (d.withBuilt (d.pageStatements filter options) r fun (select, count) r =>
      (r.selected form .all Selection.toList select).andThenOk fun rows r =>
        (r.selected countForm .one Selection.first count).map
          fun counted => counted.bind (d.pageOf rows)).result = .error e) :
    filter = .own (.error e) ∨ d.MapperFailsOn r routers e form (.select filter options) := by
  rcases withBuilt_error (d.failsAs_pageStatements filter options) hrefusal h with hown | hpage
  · exact .inl hown
  · obtain ⟨⟨select, count⟩, hbuilt, h⟩ := hpage
    obtain ⟨hselect, hcounted⟩ := pageStatements_eq_ok hbuilt
    have hsql := Statement.classify_of_select hselect
    rcases Outcome.andThenOk_error h with hfails | ⟨rows, later, hrows, h⟩
    · simp [Router.selected_error hform hsql hfails] at hrefusal
    · obtain ⟨counted, -, hpageOf⟩ := Router.selected_bind_error hcount
        (Statement.classify_of_count hcounted) hrefusal h
      rcases bind_eq_error.mp hpageOf with hmapped | ⟨results, -, hpageOf⟩
      · obtain ⟨reply, hexecute, rfl⟩ := Router.selected_ok hform hsql hrows
        obtain ⟨row, hrow, hfails⟩ := mapAll_select_error hmapped
        exact .inr ⟨select, row, hselect, delivers_of_execute hform hexecute hrow, hfails⟩
      · rcases bind_eq_error.mp hpageOf with hcountOf | ⟨n, -, hpageOf⟩
        · simp [countOf_error hcountOf] at hrefusal
        · simp at hpageOf

/-- **A change** fails for a kind as something of the caller's own among its arguments only. -/
lemma changing_error (request : Request) (form : CallForm)
    (hkind : form.operation.kind? = some request.kind) (hrefusal : e.isKindRefusal = true)
    (h : (d.withBuilt (request.build d.table) r fun sql r =>
      r.change form.operation sql).result = .error e) : request.OwnFails e := by
  rcases withBuilt_error (request.failsAs_build d.table) hrefusal h with hown | ⟨sql, hsql, h⟩
  · exact hown
  · have haccepted : Call.isAccepted ⟨form, sql⟩ = true := by
      rw [Call.isAccepted, hkind]
      exact Request.isAcceptedAs_kind hsql
    simp [Router.change_error haccepted h] at hrefusal

/-- **A stream** fails for a kind as the filter does, or as the mapper does for a row that is
delivered. -/
lemma streaming_error (form : CallForm) (hform : form.isStream = true)
    (hrefusal : e.isKindRefusal = true) {n : Nat}
    (h : (d.streamOf (Statement.select d.table filter options) r fun sql r =>
      (form.turn r).2.streamIn (form.turn r).1 sql).result.answer routers n =
        .ready (some (.error e))) :
    filter = .own (.error e) ∨ d.MapperFailsOn r routers e form (.select filter options) := by
  have hbuilds : FailsAs StatementError.toError (fun e => filter = .own (.error e))
      (Statement.select d.table filter options) := Statement.failsAs_select fun e h => h
  cases hbuilt : Statement.select d.table filter options with
  | error cause =>
      rw [hbuilt] at h hbuilds
      obtain rfl := RecordStream.answer_ofError h
      exact .inl (hbuilds.of_isKindRefusal hrefusal)
  | ok sql =>
      have haccepted : Call.isAccepted ⟨form, sql⟩ = true := Call.isAccepted_of_classify
        (.inr (CallForm.operation_of_isStream hform)) (Statement.classify_of_select hbuilt)
      rw [hbuilt, streamOf] at h
      simp only [Outcome.map,
        Router.streamIn_of_isAccepted (c := ⟨form, sql⟩) hform haccepted] at h
      rcases RecordStream.answer_error h with rfl | ⟨m, source, polls, row, hopen, hrow, hfails⟩
      · simp [Error.isKindRefusal] at hrefusal
      · refine .inr ⟨sql, row, hbuilt, ?_, hfails⟩
        simp only [Call.Delivers, hform]
        exact ⟨m, source, polls, hopen, hrow⟩

/-- **An operation fails for a kind as the caller's own code fails.** -/
lemma Task.Fails.of_isKindRefusal {task : Task} (h : task.Fails d r routers e)
    (hrefusal : e.isKindRefusal = true) :
    task.request.OwnFails e ∨ task.MapperFails d r routers e := by
  cases task with
  | getOne filter options =>
      exact (read_error .selectOne rfl hrefusal (fun _ => mapOne_select_error)
        h).imp_right (⟨_, rfl, ·⟩)
  | getOneFromWrite filter options =>
      exact (read_error .selectOneFromWrite rfl hrefusal (fun _ => mapOne_select_error)
        h).imp_right (⟨_, rfl, ·⟩)
  | getAll filter options =>
      exact (read_error .selectAll rfl hrefusal (fun _ => mapAll_select_error)
        h).imp_right (⟨_, rfl, ·⟩)
  | getAllFromWrite filter options =>
      exact (read_error .selectAllFromWrite rfl hrefusal (fun _ => mapAll_select_error)
        h).imp_right (⟨_, rfl, ·⟩)
  | getCount filter => exact .inl (counting_error .selectOne rfl hrefusal h)
  | getCountFromWrite filter => exact .inl (counting_error .selectOneFromWrite rfl hrefusal h)
  | getPage filter options =>
      exact (page_error .selectAll .selectOne rfl rfl hrefusal h).imp_right (⟨_, rfl, ·⟩)
  | getPageFromWrite filter options =>
      exact (page_error .selectAllFromWrite .selectOneFromWrite rfl rfl hrefusal h).imp_right
        (⟨_, rfl, ·⟩)
  | create row mode => exact .inl (changing_error (.insertOne row mode) .insert rfl hrefusal h)
  | createBulk rows mode => exact .inl (changing_error (.insert rows mode) .insert rfl hrefusal h)
  | upsert row onDuplicate =>
      exact .inl (changing_error (.upsert row onDuplicate) .upsert rfl hrefusal h)
  | upsertBulk rows onDuplicate =>
      exact .inl (changing_error (.upsertBulk rows onDuplicate) .upsert rfl hrefusal h)
  | updateOne filter args =>
      exact .inl (changing_error (.updateOne filter args) .update rfl hrefusal h)
  | updateAll filter args =>
      exact .inl (changing_error (.update filter args) .update rfl hrefusal h)
  | deleteOne filter => exact .inl (changing_error (.deleteOne filter) .delete rfl hrefusal h)
  | deleteAll filter => exact .inl (changing_error (.delete filter) .delete rfl hrefusal h)
  | stream filter options =>
      obtain ⟨n, h⟩ := h
      exact (streaming_error .stream rfl hrefusal h).imp_right (⟨_, rfl, ·⟩)
  | streamFromWrite filter options =>
      obtain ⟨n, h⟩ := h
      exact (streaming_error .streamFromWrite rfl hrefusal h).imp_right (⟨_, rfl, ·⟩)

end Operations

/-! ## The guard -/

/-- **The guard accepts whatever is built**, for every table, request and arguments, raw SQL
included.  So an operation that builds its statement fails for the kind of a statement only as the
caller's own code does: something of the caller's own among its arguments, or the mapper for a row
that the driver has delivered for the statement. -/
theorem passes_guard :
    (∀ table request sql, Request.build table request = .ok sql →
      Sql.validate sql request.kind = .ok ()) ∧
    ∀ (δ α : Type) [Driver δ] (d : Dao α) (r : Router δ) (routers : Nat → Router δ) (task : Task)
      (e : Error), task.Fails d r routers e → e.isKindRefusal = true →
        task.request.OwnFails e ∨ task.MapperFails d r routers e := by
  constructor
  · intro table request sql hbuilt
    rw [Sql.validate, Request.isAcceptedAs_kind hbuilt, if_pos rfl]
  · intro δ α _ d r routers task e hfails hrefusal
    exact hfails.of_isKindRefusal hrefusal

/-- An upsert with a comment and a second statement in its raw value, and a mapper that answers the
failure of a wrong kind itself. -/
theorem passes_guard_of_hostile :
    let table : Ident := ⟨[.backticked "on duplicate"]⟩
    let request := Request.upsert (.record ⟨[("a", .raw "0); DELETE FROM t; -- ")]⟩)
      (.columns ["a->'$'"])
    let sql := "INSERT INTO `on duplicate` (`a`) VALUES (0); DELETE FROM t; -- ) " ++
      "ON DUPLICATE KEY UPDATE `a`->'$' = VALUES(`a`->'$')"
    let refusal := Error.statementKind .select "DELETE"
    let d : Dao Unit := ⟨"t", ⟨[.bare "t"]⟩, fun _ => .error refusal⟩
    let r := Router.ofDrivers (ScriptedDriver.ofScript "write" [.rows [⟨[("id", .int 1)]⟩]]) []
      ⟨.first, none, none⟩
    let task := Task.getOne (.filter .empty) .none
    request.build table = .ok sql ∧ Sql.validate sql .upsert = .ok () ∧
      task.Fails d r (fun _ => r) refusal ∧ task.MapperFails d r (fun _ => r) refusal := by
  intro table request sql refusal d r task
  have hbuilt : request.build table = .ok sql := toOption_eq_some.mp (by decide +kernel)
  have hfails : (d.getOne (.filter .empty) .none r).result = .error refusal := by decide +kernel
  refine ⟨hbuilt, passes_guard.1 table request sql hbuilt, hfails, ?_⟩
  rcases passes_guard.2 _ _ d r (fun _ => r) task refusal hfails rfl with hown | hmapper
  · cases hown
  · exact hmapper

/-- **Operations do fail for the kind of a statement where the caller's own code answers that**: the
mapper for the row of a select, a filter of the caller's own, or a row of the caller's own.  So do
operations that are given the text of their statement. -/
theorem fails_as_callers :
    let refusal := Error.statementKind .select "DELETE FROM t"
    let d : Dao Unit := ⟨"t", ⟨[.bare "t"]⟩, fun _ => .error refusal⟩
    let r := Router.ofDrivers (ScriptedDriver.ofScript "write" [.rows [⟨[("id", .int 1)]⟩]]) []
      ⟨.first, none, none⟩
    (d.getOne (.filter .empty) .none r).result = .error refusal ∧
      (d.deleteAll (.own (.error refusal)) r).result = .error refusal ∧
      (d.create (.own (.error refusal)) .plain r).result = .error refusal ∧
      (d.getOneFromSql "DELETE FROM t" r).result = .error refusal ∧
      ¬∀ (task : Task) (e : Error), task.Fails d r (fun _ => r) e → e.isKindRefusal = false := by
  intro refusal d r
  have hmapper : (d.getOne (.filter .empty) .none r).result = .error refusal := by decide +kernel
  have hsql : (d.getOneFromSql "DELETE FROM t" r).result = .error refusal := by decide +kernel
  refine ⟨hmapper, rfl, rfl, hsql, fun hnever => ?_⟩
  have hother := hnever (.getOne (.filter .empty) .none) refusal hmapper
  cases hother

end Dao

end SqlAccess
