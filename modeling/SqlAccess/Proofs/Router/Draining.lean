import SqlAccess.Proofs.Router.Polling
import SqlAccess.Proofs.Router.Session

/-!
# Streams that are drained

To drain a stream is to poll it until it tells of its end, and to keep the items that it hands out
on the way.  `RecordStream.Drains` says what comes of that: the items, and the router afterwards.
A stream drains in one way at most (`Drains.unique`), and may not drain at all, since its source may
never end.

**A stream whose source answers from a list always drains** (`RecordStream.drains_opened`): it hands
out the rows of the list, mapped, up to the first failure of the list or of the mapper.
`handedOut` says so by recursion over the list, and `MapsTo` tells the rows that could be mapped
apart from the failure of the mapper.
-/

namespace SqlAccess

variable {δ α : Type}

namespace RecordStream

variable [Driver δ]

/-- Whether polling a stream until it tells of its end hands out these items and leaves this
router. -/
inductive Drains : RecordStream α → Router δ → List (Except Error α) → Router δ → Prop
  | ended {s : RecordStream α} {r : Router δ} (h : (s.poll r).result.1 = .ready none) :
      Drains s r [] (s.poll r).router
  | item {s : RecordStream α} {r drained : Router δ} {a : Except Error α}
      {items : List (Except Error α)} (h : (s.poll r).result.1 = .ready (some a))
      (hrest : Drains (s.poll r).result.2 (s.poll r).router items drained) :
      Drains s r (a :: items) drained
  | pending {s : RecordStream α} {r drained : Router δ} {items : List (Except Error α)}
      (h : (s.poll r).result.1 = .pending)
      (hrest : Drains (s.poll r).result.2 (s.poll r).router items drained) :
      Drains s r items drained

/-- **A stream drains in one way at most.** -/
theorem Drains.unique {s : RecordStream α} {r drained drained' : Router δ}
    {items items' : List (Except Error α)} (h : s.Drains r items drained)
    (h' : s.Drains r items' drained') : items = items' ∧ drained = drained' := by
  induction h generalizing items' with
  | ended hpoll =>
      cases h' with
      | ended => exact ⟨rfl, rfl⟩
      | item hpoll' => simp [hpoll] at hpoll'
      | pending hpoll' => simp [hpoll] at hpoll'
  | item hpoll _ ih =>
      cases h' with
      | ended hpoll' => simp [hpoll] at hpoll'
      | item hpoll' hrest =>
          obtain ⟨rfl, rfl⟩ := ih hrest
          rw [hpoll] at hpoll'
          simpa using hpoll'
      | pending hpoll' => simp [hpoll] at hpoll'
  | pending hpoll _ ih =>
      cases h' with
      | ended hpoll' => simp [hpoll] at hpoll'
      | item hpoll' => simp [hpoll] at hpoll'
      | pending hpoll' hrest => exact ih hrest

/-- A stream that has told of its end hands out nothing more. -/
lemma drains_of_isTerminated {s : RecordStream α} (h : s.isTerminated = true) (r : Router δ) :
    s.Drains r [] r := by
  have hpoll := poll_of_isTerminated h r
  have hover := Drains.ended (s := s) (r := r) (by rw [hpoll]; rfl)
  rwa [hpoll] at hover

/-- A failure is the last item. -/
lemma drains_of_error {s : RecordStream α} {r : Router δ} {e : Error}
    (h : (s.poll r).result.1 = .ready (some (.error e))) :
    s.Drains r [.error e] (s.poll r).router :=
  .item h (drains_of_isTerminated ((isTerminated_poll s r).mpr (.inr (.inr ⟨e, h⟩))) _)

end RecordStream

/-! ## Sources that answer from a list -/

/-- The items that are handed out of a list of rows and failures. -/
def handedOut (mapper : Record → Except Error α) :
    List (Except Error Record) → List (Except Error α)
  | [] => []
  | .error _ :: _ => [.error (.execution .stream)]
  | .ok row :: rest =>
    match mapper row.collapse with
    | .ok a => .ok a :: handedOut mapper rest
    | .error e => [.error e]

namespace RecordStream

variable [Driver δ]

/-- A poll of a source that stands in a list tells of the next answer of the list, and unless that
is final, the source stands one place further. -/
lemma poll_listed {items : List (Except Error Record)} {k : Nat} {s : RecordStream α}
    {t : RoutedStream} {r later : Router δ} (hgoesOn : s.isTerminated = false)
    (hrows : s.rows = .routed t)
    (hpoll : t.poll r = t.pollSource ((RowSource.ofItems items).after k) later) :
    (s.poll r).result.1 = told s.mapper (.ready items[k]?) ∧ (s.poll r).router = later ∧
      (s.poll r).result.2.mapper = s.mapper ∧
      (¬IsFinal (.ready items[k]?) → ∃ next, (s.poll r).result.2.rows = .routed next ∧
        next.poll later = next.pollSource ((RowSource.ofItems items).after (k + 1)) later) := by
  obtain ⟨hanswer, hafter, hmapper, hrouter⟩ := poll_routed hgoesOn hrows r
  obtain ⟨htold, hnext⟩ := t.pollSource_result ((RowSource.ofItems items).after k) later
  have hsource : ((RowSource.ofItems items).after k).poll =
      (.ready items[k]?, (RowSource.ofItems items).after (k + 1)) := by
    simp [RowSource.poll_after, RowSource.ofItems]
  rw [hpoll] at hanswer hafter hrouter
  rw [htold, ← told_eq, hsource] at hanswer
  rw [hsource] at hnext
  refine ⟨hanswer, hrouter.trans (t.pollSource_router _ later), hmapper, fun hfinal => ?_⟩
  obtain ⟨rows, hstate⟩ := hnext hfinal
  exact ⟨_, hafter, by rw [hstate]; exact RoutedStream.poll_streaming rfl later⟩

/-- What is left of a list is handed out, wherever in the list the source stands. -/
lemma drains_listed {items : List (Except Error Record)} {k : Nat} {s : RecordStream α}
    {t : RoutedStream} {r later : Router δ} (hgoesOn : s.isTerminated = false)
    (hrows : s.rows = .routed t)
    (hpoll : t.poll r = t.pollSource ((RowSource.ofItems items).after k) later) :
    s.Drains r (handedOut s.mapper (items.drop k)) later := by
  -- By induction on what is left; every poll of the source takes one answer more.
  induction hleft : items.drop k generalizing k s t r with
  | nil =>
      obtain ⟨hanswer, hrouter, -⟩ := poll_listed hgoesOn hrows hpoll
      rw [List.getElem?_eq_none (List.drop_eq_nil_iff.mp hleft)] at hanswer
      exact hrouter ▸ .ended hanswer
  | cons first rest ih =>
      obtain ⟨hanswer, hrouter, hmapper, hnext⟩ := poll_listed hgoesOn hrows hpoll
      have hfirst : items[k]? = some first := by
        rw [← List.head?_drop, hleft, List.head?_cons]
      have hrest : items.drop (k + 1) = rest := by
        rw [← List.tail_drop, hleft, List.tail_cons]
      rw [hfirst] at hanswer hnext
      cases first with
      | error e => exact hrouter ▸ drains_of_error hanswer
      | ok row =>
          rw [told] at hanswer
          rw [handedOut]
          cases hmapped : s.mapper row.collapse with
          | error e =>
              rw [hmapped] at hanswer
              exact hrouter ▸ drains_of_error hanswer
          | ok a =>
              rw [hmapped] at hanswer
              obtain ⟨next, hafter, hnext⟩ := hnext (by simp [IsFinal])
              have hgoesOn' := goesOn_poll hgoesOn (r := r) (by rw [hanswer]; simp [IsFinal])
              have hdrains := ih hgoesOn' hafter hnext hrest
              rw [hmapper] at hdrains
              exact .item hanswer (hrouter ▸ hdrains)

/-- **A stream whose source answers from a list hands the list out.** -/
theorem drains_opened {items : List (Except Error Record)} {t : RoutedStream} {r : Router δ}
    (hstate : t.state = .opening 0)
    (hopened : (Driver.pollOpen (r.driver t.pool) t.sql 0).1 = .ready (.ok (.ofItems items)))
    (mapper : Record → Except Error α) :
    (ofRows (.routed t) mapper).Drains r (handedOut mapper items) (t.routerOpened 0 r) := by
  have hpoll : t.poll r =
      t.pollSource ((RowSource.ofItems items).after 0) (t.routerOpened 0 r) := by
    rw [RoutedStream.poll_opening hstate, RoutedStream.pollOpening_of_opened hopened]
    rfl
  exact drains_listed rfl rfl hpoll

/-- A stream whose statement could not be opened hands out that the operation has failed. -/
lemma drains_openingFailed {e : Error} {t : RoutedStream} {r : Router δ}
    (hstate : t.state = .opening 0)
    (hfailed : (Driver.pollOpen (r.driver t.pool) t.sql 0).1 = .ready (.error e))
    (mapper : Record → Except Error α) :
    (ofRows (.routed t) mapper).Drains r [.error (.execution .stream)] (t.routerOpened 0 r) := by
  obtain ⟨hanswer, -, -, hrouter⟩ := poll_routed (s := ofRows (.routed t) mapper) rfl rfl r
  rw [RoutedStream.poll_opening hstate, RoutedStream.pollOpening_of_failed hfailed]
    at hanswer hrouter
  have hdrains := drains_of_error hanswer
  rwa [hrouter] at hdrains

/-- The stream that tells of a failure hands out nothing else. -/
lemma drains_ofError (e : Error) (mapper : Record → Except Error α) (r : Router δ) :
    (ofRows (.ofError e) mapper).Drains r [.error e] r :=
  drains_of_error (s := ofRows (.ofError e) mapper) (r := r) rfl

end RecordStream

/-! ## Rows that are mapped up to a failure -/

/-- Whether mapping rows in order, with every column once, comes to these values, and to a failure
of the mapper at the row behind them if there is one. -/
inductive MapsTo (mapper : Record → Except Error α) :
    List Record → List α → Option Error → Prop
  | all : MapsTo mapper [] [] none
  | row {row : Record} {rows : List Record} {a : α} {values : List α} {failure : Option Error}
      (h : mapper row.collapse = .ok a) (hrest : MapsTo mapper rows values failure) :
      MapsTo mapper (row :: rows) (a :: values) failure
  | failure {row : Record} {rows : List Record} {e : Error}
      (h : mapper row.collapse = .error e) : MapsTo mapper (row :: rows) [] (some e)

lemma exists_mapsTo (mapper : Record → Except Error α) (rows : List Record) :
    ∃ values failure, MapsTo mapper rows values failure := by
  induction rows with
  | nil => exact ⟨[], none, .all⟩
  | cons row rows ih =>
      obtain ⟨values, failure, hrest⟩ := ih
      cases h : mapper row.collapse with
      | ok a => exact ⟨a :: values, failure, .row h hrest⟩
      | error e => exact ⟨[], some e, .failure h⟩

/-- The items of mapped rows are their values, with the failure of the mapper behind them, or else
whatever comes behind the rows. -/
lemma MapsTo.handedOut {mapper : Record → Except Error α} {rows : List Record} {values : List α}
    {failure : Option Error} (h : MapsTo mapper rows values failure)
    (rest : List (Except Error Record)) :
    handedOut mapper (rows.map .ok ++ rest) = values.map .ok ++
      match failure with
      | none => handedOut mapper rest
      | some e => [.error e] := by
  induction h with
  | all => rfl
  | row h _ ih => simp [SqlAccess.handedOut, h, ih]
  | failure h => simp [SqlAccess.handedOut, h]

end SqlAccess
