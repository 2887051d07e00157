import SqlAccess.Proofs.Router.Refusals
import SqlAccess.Proofs.Router.Shutdown
import SqlAccess.Proofs.Sql.LeadingComments
import SqlAccess.Proofs.Text.Boundary

/-!
# Statements as they are quoted

Statements are quoted in the log and in one failure, that a statement is of the wrong kind.  A long
one is cut, and the cut is described here without the function that makes it: what is kept is the
longest beginning of whole characters that has room (`IsLongestBeginning`).

A session answers that failure at one kind of step only: where a statement is due and refused.  The
streams are what makes this more than a look at each call, since the stream of a refused statement
tells of it when it is polled, at a step that names no statement.  Two invariants carry it: awaited
streams are as they came out of their calls (`Session.Promises`), and no other stream has a refusal
to tell of (`Session.Settles`).

* `Session.failure?_step_iff` — the failures of the wrong kind in a run, and what each one quotes.
* **`Session.quotes_longest_beginning`** — the log and the failure cut statements in the same way.
-/

namespace SqlAccess

/-! ## Cuts -/

/-- Whether a text is the longest beginning of another that has at most `limit` bytes. -/
structure IsLongestBeginning (limit : Nat) (kept text : String) : Prop where
  begins : ∃ behind, text = kept ++ behind
  fits : kept.utf8ByteSize ≤ limit
  longest : ∀ other behind, text = other ++ behind → other.utf8ByteSize ≤ limit →
    other.utf8ByteSize ≤ kept.utf8ByteSize

/-- What is taken of a text is its longest beginning that has room. -/
lemma isLongestBeginning_takeBytes (limit : Nat) (text : String) :
    IsLongestBeginning limit (String.ofList (Text.takeBytes limit text.toList)) text := by
  obtain ⟨behind, htext⟩ := Text.takeBytes_prefix limit text.toList
  refine ⟨⟨String.ofList behind, ?_⟩, ?_, fun other more hother hroom => ?_⟩
  · rw [← String.ofList_append, htext, String.ofList_toList]
  · rw [Text.utf8ByteSize_eq, String.toList_ofList]
    exact Text.byteCount_takeBytes_le limit text.toList
  · rw [Text.utf8ByteSize_eq] at hroom ⊢
    rw [Text.utf8ByteSize_eq, String.toList_ofList]
    have hbegins : other.toList <+: text.toList := by
      rw [hother, String.toList_append]
      exact List.prefix_append _ _
    exact Text.byteCount_mono (Text.prefix_takeBytes hbegins hroom)

namespace RouterOptions

variable {o : RouterOptions} {limit : UInt64} {sql : String}

/-- A statement that has room is logged as it is. -/
lemma logged_eq_self (hlimit : o.maxSqlLogLength = some limit)
    (hroom : sql.utf8ByteSize ≤ limit.toNat) : o.logged sql = sql := by
  rw [Text.utf8ByteSize_eq] at hroom
  simp only [logged, hlimit, Text.abbreviated, if_pos hroom, String.ofList_toList]

/-- Of a statement that has no room as much is logged as has, and three dots. -/
lemma logged_of_lt (hlimit : o.maxSqlLogLength = some limit)
    (hroom : limit.toNat < sql.utf8ByteSize) :
    o.logged sql = String.ofList (Text.takeBytes limit.toNat sql.toList) ++ "..." := by
  rw [Text.utf8ByteSize_eq] at hroom
  simp only [logged, hlimit, Text.abbreviated, if_neg (Nat.not_le.mpr hroom), String.ofList_append]

end RouterOptions

/-! ## Refusals -/

/-- The failure quotes the statement without the blanks around it, as a log that is cut at two
hundred bytes has it. -/
lemma Sql.kindError_eq {o : RouterOptions} (hlimit : o.maxSqlLogLength = some 200)
    (kind : StatementKind) (sql : String) :
    kindError kind sql = .statementKind kind (o.logged (Text.trim sql)) := by
  simp only [kindError, RouterOptions.logged, hlimit, Text.trim, String.toList_ofList]
  rfl

/-- Whether the statement of a call is refused for not being of a kind. -/
def Call.IsRefusedFor (c : Call) (kind : StatementKind) : Prop :=
  c.form.operation.kind? = some kind ∧ c.isAccepted = false

lemma Call.refusal?_eq_some_iff {c : Call} {e : Error} :
    Router.refusal? c.form.operation c.sql = some e ↔
      ∃ kind, c.IsRefusedFor kind ∧ e = Sql.kindError kind c.sql := by
  unfold Router.refusal? IsRefusedFor isAccepted Sql.validate
  cases c.form.operation.kind? with
  | none => simp
  | some kind => cases h : (Sql.classify c.sql).isAcceptedAs kind <;> simp [h, eq_comm]

/-- A call fails as its statement fails. -/
lemma CallForm.failure?_answerOf_iff {form : CallForm} (h : form.isStream = false)
    {result : Except Error Reply} {e : Error} :
    (form.answerOf result).failure? = some e ↔ result = .error e := by
  cases result with
  | error cause => rw [failure?_answerOf h, Option.some.injEq, Except.error.injEq]
  | ok reply =>
      refine iff_of_false (fun hfails => ?_) (by simp)
      cases form with
      | stream => simp [isStream] at h
      | streamFromWrite => simp [isStream] at h
      | _ => cases hfails

section Refusals

variable {δ : Type} [Driver δ] {c : Call} {e : Error}

/-- **A statement fails for its kind exactly if it is refused.** -/
lemma Router.dispatch_isKindRefusal_iff (hrefusal : e.isKindRefusal = true) (pool : PoolRef)
    (r : Router δ) :
    (r.dispatch c.form.operation pool c.sql).result = .error e ↔
      Router.refusal? c.form.operation c.sql = some e := by
  cases hcause : refusal? c.form.operation c.sql with
  | some cause =>
      simp only [dispatch, hcause, Except.error.injEq, Option.some.injEq]
  | none =>
      refine iff_of_false (fun hfails => ?_) (by simp)
      have hother := dispatch_error (refusal?_eq_none_iff.mp hcause) hfails
      simp [hrefusal] at hother

/-- A stream has nothing to tell of but that its statement was refused. -/
lemma Router.streamIn_unrefused (hstream : c.form.isStream = true)
    (hnone : refusal? c.form.operation c.sql = none) (pool : PoolRef) (r : Router δ) :
    (r.streamIn pool c.sql).result.IsUnrefused := by
  rw [streamIn_of_isAccepted hstream (refusal?_eq_none_iff.mp hnone)]
  intro cause hcause
  cases hcause

/-- A stream that has just come out of its call tells at its first poll of a refusal exactly if its
statement was refused. -/
lemma Router.poll_streamIn_isKindRefusal_iff (hstream : c.form.isStream = true)
    (hrefusal : e.isKindRefusal = true) (pool : PoolRef) (asked r : Router δ) :
    ((asked.streamIn pool c.sql).result.poll r).result.1 = .ready (some (.error e)) ↔
      refusal? c.form.operation c.sql = some e := by
  cases hcause : refusal? c.form.operation c.sql with
  | some cause =>
      rw [CallForm.operation_of_isStream hstream] at hcause
      simp only [streamIn, hcause, Option.some.injEq]
      show Poll.ready (some (Except.error cause)) = .ready (some (.error e)) ↔ _
      simp
  | none =>
      refine iff_of_false (fun hfails => ?_) (by simp)
      have hother := ((asked.streamIn_unrefused hstream hcause pool).poll r).2 e hfails
      simp [hrefusal] at hother

/-- Once it has been polled, a stream of a router has no refusal to tell of. -/
lemma Router.poll_streamIn_unrefused (hstream : c.form.isStream = true) (pool : PoolRef)
    (asked r : Router δ) :
    ((asked.streamIn pool c.sql).result.poll r).result.2.IsUnrefused := by
  cases hcause : refusal? c.form.operation c.sql with
  | some cause =>
      rw [CallForm.operation_of_isStream hstream] at hcause
      simp only [streamIn, hcause]
      intro other hother
      cases hother
  | none => exact ((asked.streamIn_unrefused hstream hcause pool).poll r).1

end Refusals

/-! ## Refusals in a session -/

namespace Session

variable {δ : Type} [Driver δ]

/-- Whether no stream has a refusal to tell of but those that are awaited. -/
def Settles (history : List Step) (s : Session δ) : Prop :=
  ∀ label stream, s.streams label = some stream → awaiting history label = none →
    stream.IsUnrefused

/-- **After one step more the streams that are not awaited have still no refusal to tell of.** -/
lemma Settles.step {history : List Step} {s : Session δ} (h : Settles history s)
    (hpromises : Promises history s) (next : Step) :
    Settles (history ++ [next]) (s.step next).2 := by
  intro label stream hstreams hnone
  rw [awaiting_concat] at hnone
  by_cases hlabel : label = next.label
  · subst hlabel
    cases next with
    | call label asked =>
        rw [Session.step] at hstreams
        cases hstream : asked.form.isStream with
        | false =>
            rw [awaitingAfter, if_neg (by simp [hstream])] at hnone
            rw [call_of_not_isStream hstream] at hstreams
            exact h label stream hstreams hnone
        | true =>
            rw [awaitingAfter, if_pos ⟨rfl, hstream⟩] at hnone
            cases hnone
    | poll label =>
        rw [Session.step, poll] at hstreams
        cases hbefore : s.streams label with
        | none => simp [hbefore, Step.label] at hstreams
        | some before =>
            obtain rfl : _ = stream := by simpa [hbefore, Step.label] using hstreams
            cases hawaiting : awaiting history label with
            | none => exact ((h label before hbefore hawaiting).poll s.router).1
            | some c =>
                obtain ⟨hstream, pool, asked, hasked⟩ := hpromises label c hawaiting
                obtain rfl := Option.some.inj (hasked.symm.trans hbefore)
                exact Router.poll_streamIn_unrefused hstream pool asked s.router
  · rw [awaitingAfter_of_ne hlabel] at hnone
    rw [s.streams_step_of_ne hlabel] at hstreams
    exact h label stream hstreams hnone

lemma Settles.run {history : List Step} {s : Session δ} (h : Settles history s)
    (hpromises : Promises history s) (steps : List Step) :
    Settles (history ++ steps) (s.run steps) := by
  induction steps generalizing history s with
  | nil =>
      rw [List.append_nil]
      exact h
  | cons next steps ih =>
      have hrest := ih (h.step hpromises next) (hpromises.step next)
      rw [List.append_assoc] at hrest
      exact hrest

/-- A step fails for the kind of a statement exactly if the statement that is due is refused. -/
lemma failure?_step_isKindRefusal_iff {history : List Step} {s : Session δ}
    (hpromises : Promises history s) (hsettles : Settles history s) {e : Error}
    (hrefusal : e.isKindRefusal = true) (next : Step) :
    (s.step next).1.failure? = some e ↔
      ∃ c, due history next = some c ∧ Router.refusal? c.form.operation c.sql = some e := by
  cases next with
  | call label asked =>
      rw [step, due]
      cases hstream : asked.form.isStream with
      | false =>
          rw [call_of_not_isStream hstream, if_neg Bool.false_ne_true]
          simp only [Option.some.injEq, exists_eq_left']
          exact (CallForm.failure?_answerOf_iff hstream).trans
            (Router.dispatch_isKindRefusal_iff hrefusal _ _)
      | true =>
          rw [call_of_isStream hstream, if_pos rfl]
          simp [afterStream, Answer.failure?]
  | poll label =>
      rw [step, poll, due]
      cases hstreams : s.streams label with
      | none =>
          refine iff_of_false (by simp [Answer.failure?]) ?_
          rintro ⟨c, hawaiting, -⟩
          obtain ⟨-, pool, asked, hasked⟩ := hpromises label c hawaiting
          simp [hstreams] at hasked
      | some stream =>
          have hanswer : (Answer.poll (stream.poll s.router).result.1).failure? = some e ↔
              (stream.poll s.router).result.1 = .ready (some (.error e)) := by
            unfold Answer.failure?
            split <;> simp_all
          refine hanswer.trans ?_
          cases hawaiting : awaiting history label with
          | none =>
              refine iff_of_false (fun hfails => ?_) (by simp)
              have hother := ((hsettles label stream hstreams hawaiting).poll s.router).2 e hfails
              simp [hrefusal] at hother
          | some c =>
              obtain ⟨hstream, pool, asked, hasked⟩ := hpromises label c hawaiting
              obtain rfl := Option.some.inj (hasked.symm.trans hstreams)
              simp only [Option.some.injEq, exists_eq_left']
              exact Router.poll_streamIn_isKindRefusal_iff hstream hrefusal pool asked s.router

/-- **A run fails for the kind of a statement exactly where a refused statement is due**, and the
failure quotes that statement. -/
lemma failure?_step_iff {o : RouterOptions} (hlimit : o.maxSqlLogLength = some 200)
    (r : Router δ) (before : List Step) (next : Step) (kind : StatementKind) (quoted : String) :
    (((ofRouter r).run before).step next).1.failure? = some (.statementKind kind quoted) ↔
      ∃ c, due before next = some c ∧ c.IsRefusedFor kind ∧
        quoted = o.logged (Text.trim c.sql) := by
  have hpromises : Promises [] (ofRouter r) := fun label c hnone => by cases hnone
  have hsettles : Settles [] (ofRouter r) := fun label stream hnone => by cases hnone
  refine (failure?_step_isKindRefusal_iff (hpromises.run before) (hsettles.run hpromises before)
    rfl next).trans (exists_congr fun c => and_congr_right' ?_)
  simp only [Call.refusal?_eq_some_iff, Sql.kindError_eq hlimit, Error.statementKind.injEq]
  constructor
  · rintro ⟨_, hrefused, rfl, hquoted⟩
    exact ⟨hrefused, hquoted⟩
  · rintro ⟨hrefused, hquoted⟩
    exact ⟨kind, hrefused, rfl, hquoted⟩

/-- **Statements are quoted up to the last whole character that has room.**  A log with a limit has
a statement as it is, or its longest beginning of whole characters that has room and three dots: it
ends where steps back from the limit meet a boundary first, three bytes in front of it at most.  Of
a refused statement the guard quotes, without the blanks around it, what a log with a limit of two
hundred bytes has; and a session fails for the kind of a statement exactly where a refused statement
is due, in a call or at the first poll of its stream, and quotes that statement so. -/
theorem quotes_longest_beginning :
    (∀ (o : RouterOptions) (limit : UInt64) (sql : String), o.maxSqlLogLength = some limit →
      (sql.utf8ByteSize ≤ limit.toNat → o.logged sql = sql) ∧
      (limit.toNat < sql.utf8ByteSize → ∃ kept, IsLongestBeginning limit.toNat kept sql ∧
        kept.utf8ByteSize = Text.lastBoundary sql limit.toNat ∧
        limit.toNat ≤ kept.utf8ByteSize + 3 ∧ o.logged sql = kept ++ "...")) ∧
    ∀ o : RouterOptions, o.maxSqlLogLength = some 200 →
      (∀ sql expected e, Sql.validate sql expected = .error e →
        e = .statementKind expected (o.logged (Text.trim sql))) ∧
      ∀ (δ : Type) [Driver δ] (r : Router δ) (before : List Step) (next : Step)
        (kind : StatementKind) (quoted : String),
        (((ofRouter r).run before).step next).1.failure? = some (.statementKind kind quoted) ↔
          ∃ c, due before next = some c ∧ c.IsRefusedFor kind ∧
            quoted = o.logged (Text.trim c.sql) := by
  constructor
  · intro o limit sql hlimit
    refine ⟨RouterOptions.logged_eq_self hlimit, fun hroom => ?_⟩
    have hcount : (String.ofList (Text.takeBytes limit.toNat sql.toList)).utf8ByteSize =
        Text.byteCount (Text.takeBytes limit.toNat sql.toList) := by
      rw [Text.utf8ByteSize_eq, String.toList_ofList]
    refine ⟨_, isLongestBeginning_takeBytes limit.toNat sql, ?_, ?_,
      RouterOptions.logged_of_lt hlimit hroom⟩
    · rw [hcount, Text.lastBoundary_eq]
    · rw [hcount]
      rw [Text.utf8ByteSize_eq] at hroom
      exact Text.le_byteCount_takeBytes hroom
  · intro o hlimit
    refine ⟨fun sql expected e hfails => ?_, fun δ _ => failure?_step_iff hlimit⟩
    rw [Sql.validate] at hfails
    split_ifs at hfails
    rw [← Except.error.inj hfails, Sql.kindError_eq hlimit]

/-- The limits lie inside of characters: one in a log, and one in the failure that a stream tells of
when it is polled. -/
theorem quotes_longest_beginning_of_accents :
    let narrow : RouterOptions := ⟨.roundRobin, none, some 9⟩
    let accents (n : Nat) : String := String.ofList (List.replicate n 'é')
    let write := ScriptedDriver.ofScript "write" []
    let s := (ofRouter (.ofDrivers write [] .default)).run
      [.call 0 ⟨.stream, " DELETE " ++ accents 100⟩]
    "SELECT 'é'".utf8ByteSize = 11 ∧ narrow.logged "SELECT 'é'" = "SELECT '..." ∧
      (∃ kept, IsLongestBeginning 9 kept "SELECT 'é'" ∧
        narrow.logged "SELECT 'é'" = kept ++ "...") ∧
      Sql.validate " DELETE" .select = .error (.statementKind .select "DELETE") ∧
      (s.step (.poll 0)).1.failure? =
        some (.statementKind .select ("DELETE " ++ accents 96 ++ "...")) := by
  intro narrow accents write s
  obtain ⟨hlog, hfailures⟩ := quotes_longest_beginning
  obtain ⟨hguard, hsession⟩ := hfailures .default rfl
  refine ⟨by decide +kernel, by decide +kernel, ?_, ?_, ?_⟩
  · obtain ⟨kept, hkept, -, -, hlogged⟩ :=
      (hlog narrow 9 "SELECT 'é'" rfl).2 (by decide +kernel)
    exact ⟨kept, hkept, hlogged⟩
  · have hrefused : Sql.validate " DELETE" .select = .error (Sql.kindError .select " DELETE") :=
      if_neg (by decide +kernel)
    have hquoted : RouterOptions.default.logged (Text.trim " DELETE") = "DELETE" := by
      decide +kernel
    rw [hrefused, hguard " DELETE" .select _ hrefused, hquoted]
  · -- As characters, since a text as long as this is slow to be read from its bytes.
    have htext : (" DELETE " ++ accents 100).toList =
        " DELETE ".toList ++ List.replicate 100 'é' := by
      rw [String.toList_append, show (accents 100).toList = _ from String.toList_ofList]
    have hkind : Sql.classify (" DELETE " ++ accents 100) = .delete := by
      rw [Sql.classify, htext, Sql.decidingStatement, Sql.fromFirstWord_of_none (by decide +kernel)]
      decide +kernel
    have hkept : Text.abbreviated 200 (Text.trimList (" DELETE ".toList ++
        List.replicate 100 'é')) = "DELETE ".toList ++ List.replicate 96 'é' ++ "...".toList := by
      decide +kernel
    refine (hsession _ _ _ (.poll 0) .select _).mpr ⟨_, rfl, ⟨rfl, ?_⟩, ?_⟩
    · rw [Call.isAccepted, hkind]
      rfl
    · show _ = String.ofList (Text.abbreviated 200 (Text.trim (" DELETE " ++ accents 100)).toList)
      rw [Text.trim, String.toList_ofList, htext, hkept, String.ofList_append,
        String.ofList_append, String.ofList_toList, String.ofList_toList]

end Session

end SqlAccess
