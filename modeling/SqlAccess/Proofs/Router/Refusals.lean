import SqlAccess.Proofs.Router.Polling
import SqlAccess.Proofs.Router.Session

/-!
# Failures for the kind of a statement

A router fails for the kind of a statement only where it refuses the statement.  A call that is
accepted fails as the driver does, in words that say nothing about kinds
(`Router.dispatch_error`).  A stream may still have a refusal to tell of; one that has none
(`RowStream.IsUnrefused`) keeps to that from poll to poll (`RowStream.IsUnrefused.poll`).
-/

namespace SqlAccess

variable {δ : Type} [Driver δ] {r : Router δ} {e : Error}

/-- Whether a failure says that a statement is of another kind than the call is for. -/
def Error.isKindRefusal : Error → Bool
  | .statementKind _ _ => true
  | _ => false

/-- A statement that is accepted fails as the driver fails. -/
lemma Router.dispatch_error {c : Call} (haccepted : c.isAccepted = true) {pool : PoolRef}
    (h : (r.dispatch c.form.operation pool c.sql).result = .error e) :
    e.isKindRefusal = false := by
  rw [dispatch_of_isAccepted haccepted, send_result] at h
  cases hexecute : (Driver.execute (r.driver pool) c.sql).1 with
  | ok reply => simp [hexecute, Except.mapError] at h
  | error cause =>
      rw [hexecute] at h
      obtain rfl := Except.error.inj h
      rfl

/-! ## Streams -/

/-- Whether a stream of rows has no refusal to tell of. -/
def RowStream.IsUnrefused : RowStream → Prop
  | .routed s => ∀ cause, s.state ≠ .refused cause
  | .plain source => ∀ n e, source.answers n = .ready (some (.error e)) → e.isKindRefusal = false

/-- What comes of a failure of the driver tells of no refusal, at once or later. -/
lemma RoutedStream.fail_unrefused (s : RoutedStream) (cause : Error) (r : Router δ) :
    (∀ cause', (s.fail cause r).result.2.state ≠ .refused cause') ∧
      ∀ e, (s.fail cause r).result.1 = .ready (some (.error e)) → e.isKindRefusal = false := by
  refine ⟨by simp [fail, ended], fun e he => ?_⟩
  obtain rfl : .execution .stream = e := by simpa [fail] using he
  rfl

lemma RoutedStream.pollSource_unrefused (s : RoutedStream) (source : RowSource) (r : Router δ) :
    (∀ cause, (s.pollSource source r).result.2.state ≠ .refused cause) ∧
      ∀ e, (s.pollSource source r).result.1 = .ready (some (.error e)) →
        e.isKindRefusal = false := by
  unfold pollSource
  rcases source.poll with ⟨answer, later⟩
  match answer with
  | .pending => exact ⟨by simp [Outcome.pure], by simp [Outcome.pure]⟩
  | .ready none => exact ⟨by simp [finish, ended], by simp [finish]⟩
  | .ready (some (.ok row)) => exact ⟨by simp [Outcome.pure], by simp [Outcome.pure]⟩
  | .ready (some (.error cause)) => exact s.fail_unrefused cause _

/-- **A poll leaves a stream without a refusal to tell of**, and tells of none. -/
lemma RowStream.IsUnrefused.poll {s : RowStream} (h : s.IsUnrefused) (r : Router δ) :
    (s.poll r).result.2.IsUnrefused ∧
      ∀ e, (s.poll r).result.1 = .ready (some (.error e)) → e.isKindRefusal = false := by
  cases s with
  | plain source => exact ⟨h, h _⟩
  | routed s =>
      show (∀ cause, (s.poll r).result.2.state ≠ .refused cause) ∧
        ∀ e, (s.poll r).result.1 = .ready (some (.error e)) → e.isKindRefusal = false
      unfold RoutedStream.poll
      split
      · rename_i hover
        exact ⟨by simp [Outcome.pure, hover], by simp [Outcome.pure]⟩
      · rename_i cause hrefused
        exact absurd hrefused (h cause)
      · rename_i polls hopening
        cases hopen : (Driver.pollOpen (r.driver s.pool) s.sql polls).1 with
        | pending =>
            rw [RoutedStream.pollOpening_of_pending hopen]
            exact ⟨by simp, by simp⟩
        | ready opened =>
            cases opened with
            | ok source =>
                rw [RoutedStream.pollOpening_of_opened hopen]
                exact s.pollSource_unrefused source _
            | error cause =>
                rw [RoutedStream.pollOpening_of_failed hopen]
                exact s.fail_unrefused cause _
      · exact s.pollSource_unrefused _ r

end SqlAccess
