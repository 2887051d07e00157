import Mathlib.Tactic.Common
import SqlAccess.Router.Stream

/-!
# What a stream answers, poll by poll

A stream of mapped rows is two machines, one inside the other: the stream of the router opens the
statement, polls the source and gives every row its columns once; the stream around it maps the rows
and remembers whether it has told of its end.  Nothing is assumed of the source, which may fail, go
on after a failure or its end, or never answer.

**`RecordStream.poll_eq_told`** says what all of that comes to.  As long as no answer has been the
last, the poll of number `n` tells what comes in at that poll (`Opening.incoming`, `told`): nothing
while the statement is being opened, and from then on what the source answers to one more poll each
time.  After the last answer a poll changes nothing and polls nothing.

Polls may be made at any time, so the router that a poll finds is not the one that the poll before
it left.  `routers` is the router at each poll, and all statements hold whatever it is.
-/

namespace SqlAccess

variable {δ α : Type}

/-! ## Openings -/

/-- How a statement is opened: how many polls are answered with nothing, and what comes then. -/
structure Opening where
  wait : Nat
  opened : Except Error RowSource

/-- The source after some more polls. -/
def RowSource.after (s : RowSource) (polls : Nat) : RowSource :=
  { s with polls := s.polls + polls }

lemma RowSource.poll_after (s : RowSource) (polls : Nat) :
    (s.after polls).poll = (s.answers (s.polls + polls), s.after (polls + 1)) := rfl

namespace Opening

/-- What comes in at a poll: nothing while the statement is being opened, then that it could not be
opened, or the next answer of the source. -/
def incoming (o : Opening) (n : Nat) : RowPoll :=
  if n < o.wait then .pending
  else match o.opened with
    | .error e => .ready (some (.error e))
    | .ok source => source.answers (source.polls + (n - o.wait))

/-- The source that is polled at a poll, if there is one: it has been polled once at every poll
since the statement was opened. -/
def polled? (o : Opening) (n : Nat) : Option RowSource :=
  if n < o.wait then none
  else match o.opened with
    | .error _ => none
    | .ok source => some (source.after (n - o.wait))

/-- Where a stream is before the poll of number `n`, if it is not over: it has been opening the
statement at all polls, or it has a source, which it has polled once at each poll from the one on
that opened the statement. -/
inductive Reaches (o : Opening) : Nat → StreamState → Prop
  | opening {n : Nat} (h : n ≤ o.wait) : o.Reaches n (.opening n)
  | streaming {n : Nat} {source : RowSource} (hopened : o.opened = .ok source)
      (h : o.wait < n) : o.Reaches n (.streaming (source.after (n - o.wait)))

end Opening

/-- Whether the driver of a pool opens a statement in this way as far as the polls up to number `n`
tell, where `routers` is the router that each poll finds.  A driver that never opens the statement
is one that has not opened it yet. -/
structure Opens [Driver δ] (routers : Nat → Router δ) (pool : PoolRef) (sql : String)
    (o : Opening) (n : Nat) : Prop where
  pending : ∀ m ≤ n, m < o.wait → (Driver.pollOpen ((routers m).driver pool) sql m).1 = .pending
  ready : o.wait ≤ n →
    (Driver.pollOpen ((routers o.wait).driver pool) sql o.wait).1 = .ready o.opened

lemma Opens.mono [Driver δ] {routers : Nat → Router δ} {pool : PoolRef} {sql : String}
    {o : Opening} {m n : Nat} (h : Opens routers pool sql o n) (hm : m ≤ n) :
    Opens routers pool sql o m :=
  ⟨fun k hk => h.pending k (Nat.le_trans hk hm), fun hwait => h.ready (Nat.le_trans hwait hm)⟩

/-- **Every driver opens a statement in some way**, as far as the polls up to any number tell. -/
lemma exists_opens [Driver δ] (routers : Nat → Router δ) (pool : PoolRef) (sql : String)
    (n : Nat) : ∃ o, Opens routers pool sql o n := by
  -- The way that it opens the statement is known one poll further at each step.
  induction n with
  | zero =>
      cases hpoll : (Driver.pollOpen ((routers 0).driver pool) sql 0).1 with
      | pending =>
          refine ⟨⟨1, .ok (.ofItems [])⟩, fun m hm _ => ?_, fun hwait => by simp at hwait⟩
          obtain rfl : m = 0 := by omega
          exact hpoll
      | ready opened => exact ⟨⟨0, opened⟩, fun m _ hm => by simp at hm, fun _ => hpoll⟩
  | succ n ih =>
      obtain ⟨o, ho⟩ := ih
      by_cases hwait : o.wait ≤ n
      · refine ⟨o, fun m _ hm => ho.pending m (by omega) hm, fun _ => ho.ready hwait⟩
      · have hpending (m : Nat) (hm : m ≤ n) :
            (Driver.pollOpen ((routers m).driver pool) sql m).1 = .pending :=
          ho.pending m hm (by omega)
        cases hpoll : (Driver.pollOpen ((routers (n + 1)).driver pool) sql (n + 1)).1 with
        | pending =>
            refine ⟨⟨n + 2, o.opened⟩, fun m hm _ => ?_, fun hwait => by simp at hwait⟩
            rcases Nat.lt_or_eq_of_le hm with hlt | rfl
            · exact hpending m (by omega)
            · exact hpoll
        | ready opened =>
            exact ⟨⟨n + 1, opened⟩, fun m _ hm => hpending m (Nat.le_of_lt_succ hm),
              fun _ => hpoll⟩

/-! ## The stream of a router -/

/-- What the stream of a router tells of what comes in: rows with their columns once, and of a
failure that the operation has failed. -/
def routedAnswer : RowPoll → RowPoll
  | .pending => .pending
  | .ready none => .ready none
  | .ready (some (.error _)) => .ready (some (.error (.execution .stream)))
  | .ready (some (.ok row)) => .ready (some (.ok row.collapse))

/-- Whether nothing is to come after an answer: it is a failure, or tells of the end. -/
def IsFinal {β : Type} (answer : Poll (Option (Except Error β))) : Prop :=
  answer = .ready none ∨ ∃ e, answer = .ready (some (.error e))

lemma isLast_iff {answer : Poll (Option (Except Error α))} :
    RecordStream.isLast answer = true ↔ IsFinal answer := by
  unfold RecordStream.isLast IsFinal
  split <;> simp

namespace RoutedStream

variable [Driver δ]

/-- The source that a poll of the stream polls, if it polls one. -/
def polled? (s : RoutedStream) (r : Router δ) : Option RowSource :=
  match s.state with
  | .streaming source => some source
  | .opening polls =>
    match (Driver.pollOpen (r.driver s.pool) s.sql polls).1 with
    | .ready (.ok source) => some source
    | _ => none
  | .refused _ => none
  | .over => none

/-- Polling the source tells of its answer, and leaves the source after one more poll unless the
answer is final. -/
lemma pollSource_result (s : RoutedStream) (source : RowSource) (r : Router δ) :
    (s.pollSource source r).result.1 = routedAnswer source.poll.1 ∧
      (¬IsFinal source.poll.1 →
        ∃ rows, (s.pollSource source r).result.2 =
          { s with state := .streaming source.poll.2, rows }) := by
  unfold pollSource
  rcases hpoll : source.poll with ⟨answer, later⟩
  match answer with
  | .pending => exact ⟨rfl, fun _ => ⟨s.rows, rfl⟩⟩
  | .ready none => exact ⟨rfl, fun h => absurd (.inl rfl) h⟩
  | .ready (some (.error e)) => exact ⟨rfl, fun h => absurd (.inr ⟨e, rfl⟩) h⟩
  | .ready (some (.ok row)) => exact ⟨rfl, fun _ => ⟨s.rows + 1, rfl⟩⟩

lemma poll_opening {s : RoutedStream} {polls : Nat} (h : s.state = .opening polls)
    (r : Router δ) : s.poll r = s.pollOpening polls r := by
  rw [poll, h]

lemma poll_streaming {s : RoutedStream} {source : RowSource} (h : s.state = .streaming source)
    (r : Router δ) : s.poll r = s.pollSource source r := by
  rw [poll, h]

/-- As long as the driver has nothing to say, the stream waits on. -/
lemma pollOpening_of_pending {s : RoutedStream} {r : Router δ} {polls : Nat}
    (h : (Driver.pollOpen (r.driver s.pool) s.sql polls).1 = .pending) :
    (s.pollOpening polls r).result = (.pending, { s with state := .opening (polls + 1) }) := by
  rcases hopen : Driver.pollOpen (r.driver s.pool) s.sql polls with ⟨answer, d⟩
  rw [hopen] at h
  obtain rfl : answer = .pending := h
  simp only [pollOpening, hopen]
  rfl

/-- The router once the driver has opened the statement, or failed to. -/
def routerOpened (s : RoutedStream) (polls : Nat) (r : Router δ) : Router δ :=
  (r.setDriver s.pool (Driver.pollOpen (r.driver s.pool) s.sql polls).2).later
    (Driver.openingTime (r.driver s.pool))

/-- A stream whose statement could not be opened fails. -/
lemma pollOpening_of_failed {s : RoutedStream} {r : Router δ} {polls : Nat} {e : Error}
    (h : (Driver.pollOpen (r.driver s.pool) s.sql polls).1 = .ready (.error e)) :
    s.pollOpening polls r = s.fail e (s.routerOpened polls r) := by
  unfold routerOpened
  rcases hopen : Driver.pollOpen (r.driver s.pool) s.sql polls with ⟨answer, d⟩
  rw [hopen] at h
  obtain rfl : answer = .ready (.error e) := h
  simp only [pollOpening, hopen]

/-- A stream whose statement is opened polls the source at once. -/
lemma pollOpening_of_opened {s : RoutedStream} {r : Router δ} {polls : Nat} {source : RowSource}
    (h : (Driver.pollOpen (r.driver s.pool) s.sql polls).1 = .ready (.ok source)) :
    s.pollOpening polls r = s.pollSource source (s.routerOpened polls r) := by
  unfold routerOpened
  rcases hopen : Driver.pollOpen (r.driver s.pool) s.sql polls with ⟨answer, d⟩
  rw [hopen] at h
  obtain rfl : answer = .ready (.ok source) := h
  simp only [pollOpening, hopen]

/-- **A poll polls no source but that one, and does so once**: a poll that polls a source is nothing
but that. -/
lemma poll_of_polled? {s : RoutedStream} {r : Router δ} {source : RowSource}
    (h : s.polled? r = some source) : ∃ later, s.poll r = s.pollSource source later := by
  unfold polled? at h
  split at h
  · rename_i hstate
    obtain rfl := Option.some.inj h
    exact ⟨r, poll_streaming hstate r⟩
  · rename_i polls hstate
    rw [poll_opening hstate]
    split at h
    · rename_i opened hopened
      obtain rfl := Option.some.inj h
      exact ⟨_, pollOpening_of_opened hopened⟩
    · simp at h
  · simp at h
  · simp at h

variable {routers : Nat → Router δ} {o : Opening} {n : Nat}

/-- What a stream polls is the source that comes out of the opening, as often polled as it has been
polled since. -/
lemma polled?_of_reaches {s : RoutedStream} (hopens : Opens routers s.pool s.sql o n)
    (hreaches : o.Reaches n s.state) : s.polled? (routers n) = o.polled? n := by
  cases hstate : s.state with
  | opening polls =>
      rw [hstate] at hreaches
      cases hreaches with
      | opening hn =>
          rcases Nat.lt_or_eq_of_le hn with hlt | rfl
          · simp [polled?, Opening.polled?, hstate, hlt,
              hopens.pending n (Nat.le_refl n) hlt]
          · rcases hopened : o.opened with e | source <;>
              simp [polled?, Opening.polled?, hstate, hopens.ready (Nat.le_refl _), hopened,
                RowSource.after]
  | streaming source =>
      rw [hstate] at hreaches
      cases hreaches with
      | streaming hopened hn =>
          simp [polled?, Opening.polled?, hstate, hopened, Nat.not_lt_of_gt hn]
  -- No poll finds a stream that was refused or is over.
  | _ =>
      rw [hstate] at hreaches
      cases hreaches

/-- **One poll of the stream of a router**: it tells of what comes in, and unless that is final, the
stream reaches the next poll. -/
lemma poll_of_reaches {s : RoutedStream} (hopens : Opens routers s.pool s.sql o n)
    (hreaches : o.Reaches n s.state) :
    (s.poll (routers n)).result.1 = routedAnswer (o.incoming n) ∧
      (¬IsFinal (o.incoming n) → ∃ state rows,
        (s.poll (routers n)).result.2 = { s with state, rows } ∧ o.Reaches (n + 1) state) := by
  by_cases hn : n < o.wait
  · have hstate : s.state = .opening n := by
      generalize s.state = state at hreaches
      cases hreaches with
      | opening => rfl
      | streaming _ hlater => exact absurd hlater (Nat.not_lt_of_gt hn)
    have hpending := pollOpening_of_pending (hopens.pending n (Nat.le_refl n) hn)
    rw [poll_opening hstate, hpending, Opening.incoming, if_pos hn]
    exact ⟨rfl, fun _ => ⟨.opening (n + 1), s.rows, rfl, .opening hn⟩⟩
  · rcases hopened : o.opened with e | source
    · have hstate : s.state = .opening n ∧ n = o.wait := by
        generalize s.state = state at hreaches
        cases hreaches with
        | opening hle => exact ⟨rfl, by omega⟩
        | streaming hsource => simp [hopened] at hsource
      obtain ⟨hstate, rfl⟩ := hstate
      have hfailed := hopens.ready (Nat.le_refl _)
      rw [hopened] at hfailed
      rw [poll_opening hstate, pollOpening_of_failed hfailed, Opening.incoming, if_neg hn, hopened]
      exact ⟨rfl, fun hfinal => absurd (.inr ⟨e, rfl⟩) hfinal⟩
    · have hpolled : s.polled? (routers n) = some (source.after (n - o.wait)) := by
        rw [polled?_of_reaches hopens hreaches, Opening.polled?, if_neg hn, hopened]
      obtain ⟨later, hpoll⟩ := poll_of_polled? hpolled
      obtain ⟨hanswer, hnext⟩ := s.pollSource_result (source.after (n - o.wait)) later
      have hincoming : o.incoming n = (source.after (n - o.wait)).poll.1 := by
        rw [Opening.incoming, if_neg hn, hopened]
        rfl
      rw [hpoll, hincoming]
      refine ⟨hanswer, fun hfinal => ?_⟩
      obtain ⟨rows, hafter⟩ := hnext hfinal
      refine ⟨_, rows, hafter, ?_⟩
      have hcount : n - o.wait + 1 = n + 1 - o.wait := by omega
      rw [RowSource.poll_after, hcount]
      exact .streaming hopened (by omega)

end RoutedStream

/-! ## Streams of mapped rows -/

/-- The source that a poll of the stream polls, if it polls one. -/
def RowStream.polled? [Driver δ] (s : RowStream) (r : Router δ) : Option RowSource :=
  match s with
  | .routed s => s.polled? r
  | .plain source => some source

/-- What a stream of mapped rows tells of what comes in: every row with its columns once, mapped; of
a failure that the operation has failed; and a failure of the mapper as it is. -/
def told (mapper : Record → Except Error α) : RowPoll → Poll (Option (Except Error α))
  | .pending => .pending
  | .ready none => .ready none
  | .ready (some (.error _)) => .ready (some (.error (.execution .stream)))
  | .ready (some (.ok row)) => .ready (some (mapper row.collapse))

lemma told_eq (mapper : Record → Except Error α) (incoming : RowPoll) :
    told mapper incoming = RecordStream.answerOf mapper (routedAnswer incoming) := by
  match incoming with
  | .pending => rfl
  | .ready none => rfl
  | .ready (some (.error _)) => rfl
  | .ready (some (.ok _)) => rfl

/-- What is final for the source is final for the stream. -/
lemma IsFinal.told {mapper : Record → Except Error α} {incoming : RowPoll}
    (h : IsFinal incoming) : IsFinal (told mapper incoming) := by
  rcases h with rfl | ⟨e, rfl⟩
  · exact .inl rfl
  · exact .inr ⟨_, rfl⟩

namespace RecordStream

variable [Driver δ]

/-- The source that a poll of the stream polls, if it polls one. -/
def polled? (s : RecordStream α) (r : Router δ) : Option RowSource :=
  if s.isTerminated then none else s.rows.polled? r

/-- The stream after so many polls, where `routers` is the router that each poll finds. -/
def after (s : RecordStream α) (routers : Nat → Router δ) : Nat → RecordStream α
  | 0 => s
  | n + 1 => ((s.after routers n).poll (routers n)).result.2

/-- The answer to the poll of number `n`. -/
def answer (s : RecordStream α) (routers : Nat → Router δ) (n : Nat) :
    Poll (Option (Except Error α)) :=
  ((s.after routers n).poll (routers n)).result.1

/-- A stream that has told of its end tells of it again, and does nothing. -/
lemma poll_of_isTerminated {s : RecordStream α} (h : s.isTerminated = true) (r : Router δ) :
    s.poll r = .pure (.ready none, s) r := by
  rw [poll, if_pos h]

/-- A stream has told of its end once an answer has been final. -/
lemma isTerminated_poll (s : RecordStream α) (r : Router δ) :
    (s.poll r).result.2.isTerminated = true ↔
      s.isTerminated = true ∨ IsFinal (s.poll r).result.1 := by
  cases h : s.isTerminated with
  | true =>
      rw [poll_of_isTerminated h]
      simpa [Outcome.pure] using h
  | false =>
      rw [poll, if_neg (by simp [h])]
      simpa [Outcome.map] using isLast_iff

/-- What a stream comes to that polls its source: the source is polled once, and what it answers is
told. -/
def pollSource (s : RecordStream α) (t : RoutedStream) (source : RowSource) (r : Router δ) :
    Outcome δ (Poll (Option (Except Error α)) × RecordStream α) :=
  (t.pollSource source r).map fun (answer, t) =>
    let mapped := answerOf s.mapper answer
    (mapped, { s with rows := .routed t, isTerminated := isLast mapped })

/-- **A poll polls no source but that one, and does so once.** -/
lemma poll_of_polled? {s : RecordStream α} {t : RoutedStream} {r : Router δ} {source : RowSource}
    (hrows : s.rows = .routed t) (h : s.polled? r = some source) :
    ∃ later, s.poll r = s.pollSource t source later := by
  rw [polled?] at h
  split_ifs at h with hterminated
  rw [hrows] at h
  obtain ⟨later, hpoll⟩ := RoutedStream.poll_of_polled? h
  refine ⟨later, ?_⟩
  rw [poll, if_neg hterminated, hrows, RowStream.poll, hpoll]
  rfl

/-- A stream that goes on polls the stream of the router, and tells of what that answers. -/
lemma poll_routed {s : RecordStream α} {t : RoutedStream} (hgoesOn : s.isTerminated = false)
    (hrows : s.rows = .routed t) (r : Router δ) :
    (s.poll r).result.1 = answerOf s.mapper (t.poll r).result.1 ∧
      (s.poll r).result.2.rows = .routed (t.poll r).result.2 ∧
      (s.poll r).result.2.mapper = s.mapper ∧ (s.poll r).router = (t.poll r).router := by
  rw [poll, if_neg (by simp [hgoesOn]), hrows]
  exact ⟨rfl, rfl, rfl, rfl⟩

/-- A stream goes on after an answer that is not final. -/
lemma goesOn_poll {s : RecordStream α} {r : Router δ} (hgoesOn : s.isTerminated = false)
    (hanswer : ¬IsFinal (s.poll r).result.1) : (s.poll r).result.2.isTerminated = false := by
  rw [← Bool.not_eq_true, isTerminated_poll]
  simp [hgoesOn, hanswer]

/-- **A stream has told of its end exactly if an answer has been final.** -/
lemma isTerminated_after {s : RecordStream α} (h : s.isTerminated = false)
    (routers : Nat → Router δ) (n : Nat) :
    (s.after routers n).isTerminated = true ↔ ∃ m < n, IsFinal (s.answer routers m) := by
  induction n with
  | zero => simp [after, h]
  | succ n ih =>
      rw [after, isTerminated_poll, ih, Nat.exists_lt_succ_right]
      rfl

/-- Whether a stream that is not over stands before the poll of number `n`. -/
structure StandsAt (s : RecordStream α) (mapper : Record → Except Error α) (pool : PoolRef)
    (sql : String) (o : Opening) (n : Nat) : Prop where
  goesOn : s.isTerminated = false
  mapper : s.mapper = mapper
  rows : ∃ t : RoutedStream, s.rows = .routed t ∧ t.pool = pool ∧ t.sql = sql ∧
    o.Reaches n t.state

variable {mapper : Record → Except Error α} {pool : PoolRef} {sql : String} {o : Opening}
  {routers : Nat → Router δ} {s : RecordStream α}

/-- A stream that has not been polled stands before the first poll. -/
lemma standsAt_start (mapper : Record → Except Error α) (pool : PoolRef) (sql : String)
    (o : Opening) (start : Nat) :
    (RecordStream.ofRows (.routed ⟨.opening 0, pool, sql, start, 0⟩) mapper).StandsAt mapper pool
      sql o 0 :=
  ⟨rfl, rfl, _, rfl, rfl, rfl, .opening (Nat.zero_le _)⟩

lemma StandsAt.polled? {n : Nat} (h : s.StandsAt mapper pool sql o n)
    (hopens : Opens routers pool sql o n) : s.polled? (routers n) = o.polled? n := by
  obtain ⟨t, hrows, rfl, rfl, hreaches⟩ := h.rows
  rw [RecordStream.polled?, if_neg (by simp [h.goesOn]), hrows]
  exact RoutedStream.polled?_of_reaches hopens hreaches

/-- **One poll**: the stream tells of what comes in, and unless that is final, it stands before the
next poll. -/
lemma StandsAt.poll {n : Nat} (h : s.StandsAt mapper pool sql o n)
    (hopens : Opens routers pool sql o n) :
    (s.poll (routers n)).result.1 = told mapper (o.incoming n) ∧
      (¬IsFinal (told mapper (o.incoming n)) →
        (s.poll (routers n)).result.2.StandsAt mapper pool sql o (n + 1)) := by
  obtain ⟨t, hrows, rfl, rfl, hreaches⟩ := h.rows
  obtain ⟨hanswer, hnext⟩ := RoutedStream.poll_of_reaches hopens hreaches
  obtain ⟨hpoll, hafter, hmapper, -⟩ := poll_routed h.goesOn hrows (routers n)
  rw [h.mapper] at hpoll hmapper
  rw [hanswer, ← told_eq] at hpoll
  refine ⟨hpoll, fun hfinal => ⟨goesOn_poll h.goesOn (by rwa [hpoll]), hmapper, ?_⟩⟩
  obtain ⟨state, rows, hstate, hreaches⟩ := hnext fun hfinal' => hfinal hfinal'.told
  exact ⟨_, hafter, by rw [hstate], by rw [hstate], by rw [hstate]; exact hreaches⟩

/-- As long as nothing that was told is final, the stream goes on. -/
lemma StandsAt.after {n : Nat} (h : s.StandsAt mapper pool sql o 0)
    (hopens : Opens routers pool sql o n)
    (hgoesOn : ∀ m < n, ¬IsFinal (told mapper (o.incoming m))) :
    (s.after routers n).StandsAt mapper pool sql o n := by
  induction n with
  | zero => exact h
  | succ n ih =>
      have hopens := hopens.mono (Nat.le_succ n)
      have hbefore := ih hopens fun m hm => hgoesOn m (Nat.lt_succ_of_lt hm)
      exact (hbefore.poll hopens).2 (hgoesOn n (Nat.lt_succ_self n))

/-- After an answer that is final, the stream is over. -/
lemma StandsAt.isTerminated_after {n : Nat} (h : s.StandsAt mapper pool sql o 0)
    (hopens : Opens routers pool sql o n) :
    (s.after routers n).isTerminated = true ↔
      ∃ m < n, IsFinal (told mapper (o.incoming m)) := by
  constructor
  · intro hover
    by_contra hgoesOn
    have hstands := h.after hopens fun m hm hfinal => hgoesOn ⟨m, hm, hfinal⟩
    simp [hstands.goesOn] at hover
  · rintro ⟨m, hm, hfinal⟩
    -- The first answer that is final is told as it comes in.
    induction m using Nat.strongRecOn with
    | ind m ih =>
        by_cases hearlier : ∃ k < m, IsFinal (told mapper (o.incoming k))
        · obtain ⟨k, hk, hfinal'⟩ := hearlier
          exact ih k hk (Nat.lt_trans hk hm) hfinal'
        · have hopens := hopens.mono (Nat.le_of_lt hm)
          have hstands := h.after hopens fun k hk hfinal' => hearlier ⟨k, hk, hfinal'⟩
          refine (RecordStream.isTerminated_after h.goesOn routers n).mpr ⟨m, hm, ?_⟩
          rw [answer, (hstands.poll hopens).1]
          exact hfinal

/-- **What a stream answers, poll by poll.**  Let the statement of a stream be opened in any way,
and let the stream be polled at any times.  As long as nothing that was told is final, each poll
tells of what comes in, and polls the source once if there is one already.  From the first final
answer on the stream tells of its end, and a poll changes neither the stream nor the router and
polls nothing.  That it is over can be asked of the stream exactly from then on.  To poll the source
once is all that a poll does which polls it, be it the last or not. -/
theorem poll_eq_told (mapper : Record → Except Error α) {pool : PoolRef} {sql : String}
    {o : Opening} {routers : Nat → Router δ} {n : Nat} (hopens : Opens routers pool sql o n)
    (start : Nat) :
    let s := RecordStream.ofRows (.routed ⟨.opening 0, pool, sql, start, 0⟩) mapper
    ((∀ m < n, ¬IsFinal (told mapper (o.incoming m))) →
      s.answer routers n = told mapper (o.incoming n) ∧
        (s.after routers n).polled? (routers n) = o.polled? n) ∧
    ((∃ m < n, IsFinal (told mapper (o.incoming m))) →
      (s.after routers n).poll (routers n) =
          .pure (.ready none, s.after routers n) (routers n) ∧
        (s.after routers n).polled? (routers n) = none) ∧
    ((s.after routers n).isTerminated = true ↔ ∃ m < n, IsFinal (s.answer routers m)) ∧
    ∀ source, (s.after routers n).polled? (routers n) = some source →
      ∃ t later, (s.after routers n).rows = .routed t ∧
        (s.after routers n).poll (routers n) = (s.after routers n).pollSource t source later := by
  intro s
  have hstart : s.StandsAt mapper pool sql o 0 := standsAt_start mapper pool sql o start
  refine ⟨fun hgoesOn => ?_, fun hover => ?_, RecordStream.isTerminated_after rfl routers n,
    fun source hpolled => ?_⟩
  · have hstands := hstart.after hopens hgoesOn
    exact ⟨(hstands.poll hopens).1, hstands.polled? hopens⟩
  · have hterminated := (hstart.isTerminated_after hopens).mpr hover
    exact ⟨poll_of_isTerminated hterminated _, by rw [RecordStream.polled?, if_pos hterminated]⟩
  · have hgoesOn : (s.after routers n).isTerminated ≠ true := by
      intro hterminated
      simp [RecordStream.polled?, hterminated] at hpolled
    have hstands := hstart.after hopens fun m hm hfinal =>
      hgoesOn ((hstart.isTerminated_after hopens).mpr ⟨m, hm, hfinal⟩)
    obtain ⟨t, hrows, -⟩ := hstands.rows
    obtain ⟨later, hpoll⟩ := poll_of_polled? hrows hpolled
    exact ⟨t, later, hrows, hpoll⟩

end RecordStream

/-- A driver that is known by how it opens statements. -/
structure OpeningDriver where
  opening : Opening

instance : Driver OpeningDriver where
  name _ := "opening"
  execute d _ := (.error (.driver "opens statements only"), d)
  pollOpen d _ polls :=
    (if polls < d.opening.wait then .pending else .ready d.opening.opened, d)
  shutdown d := (.ok (), d)
  executionTime _ := 0
  openingTime _ := 0

/-- Every opening is that of some driver. -/
lemma opens_openingDriver (o : Opening) (sql : String) (n : Nat) :
    Opens (fun _ => .ofDrivers (OpeningDriver.mk o) [] .default) .write sql o n :=
  ⟨fun _ _ hm => if_pos hm, fun _ => if_neg (Nat.lt_irrefl o.wait)⟩

/-- A source that goes on after a failure, and is not polled for more. -/
theorem RecordStream.poll_eq_told_of_failure :
    let row : Record := ⟨[("id", .int 1), ("id", .int 2)]⟩
    let source := RowSource.ofItems [.ok row, .error (.driver "lost"), .ok row]
    let routers := fun _ => Router.ofDrivers (OpeningDriver.mk ⟨1, .ok source⟩) [] .default
    let s := RecordStream.ofRows (.routed ⟨.opening 0, .write, "SELECT 1", 0, 0⟩) Except.ok
    s.answer routers 1 = .ready (some (.ok ⟨[("id", .int 2)]⟩)) ∧
      s.answer routers 2 = .ready (some (.error (.execution .stream))) ∧
      (s.after routers 3).poll (routers 3) =
        .pure (.ready none, s.after routers 3) (routers 3) ∧
      (s.after routers 3).polled? (routers 3) = none := by
  intro row source routers s
  let o : Opening := ⟨1, .ok source⟩
  have hopens := opens_openingDriver o "SELECT 1"
  have hpending : ¬IsFinal (told (α := Record) Except.ok (o.incoming 0)) := by
    rintro (h | ⟨_, h⟩) <;> cases h
  have hrow : ¬IsFinal (told (α := Record) Except.ok (o.incoming 1)) := by
    rintro (h | ⟨_, h⟩) <;> cases h
  have hfirst := (poll_eq_told Except.ok (hopens 1) 0).1 fun m hm => by
    obtain rfl : m = 0 := by omega
    exact hpending
  have hsecond := (poll_eq_told Except.ok (hopens 2) 0).1 fun m hm => by
    obtain rfl | rfl : m = 0 ∨ m = 1 := by omega
    · exact hpending
    · exact hrow
  have hthird := (poll_eq_told Except.ok (hopens 3) 0).2.1
    ⟨2, by omega, .inr ⟨_, rfl⟩⟩
  exact ⟨hfirst.1, hsecond.1, hthird⟩

end SqlAccess
