import SqlAccess.Driver.Scripted
import SqlAccess.Proofs.Router.Session

/-!
# Calls that are refused

A call whose statement is refused sends nothing.  Does it leave any trace?  Two runs are compared:
one takes all steps, the other leaves out refused calls together with the polls of the streams that
came out of them.  Calls to be left out are told by their labels, and every call may have a label of
its own, so any of the refused calls may be left out.

**Where the read pools take turns, a refused read uses a turn up**, because a read takes its turn
before its statement is looked at.  The next read then goes to another pool.  In all other cases
the two runs agree (`Session.Agree`): step by step they have the same router, and the streams that
only the first one has send nothing.

* `Session.Agree.run` — runs that leave out quiet steps agree.
* `Session.exists_traced` — a refused read that changes where the next one goes.
* **`Session.untraced_iff`** — refused calls leave no trace exactly if the pools take no turns.
-/

namespace SqlAccess

/-! ## Streams that send nothing -/

/-- Whether a stream tells of a refusal or is over. -/
def RowStream.isSilent : RowStream → Bool
  | .routed ⟨.refused _, _, _, _, _⟩ => true
  | .routed ⟨.over, _, _, _, _⟩ => true
  | _ => false

section Silence

variable {δ : Type} [Driver δ]

lemma RowStream.poll_silent {s : RowStream} (h : s.isSilent = true) (r : Router δ) :
    (s.poll r).router = r ∧ (s.poll r).result.2.isSilent = true := by
  cases s with
  | plain source => simp [isSilent] at h
  | routed s =>
      obtain ⟨state, pool, sql, start, rows⟩ := s
      cases state with
      | opening polls => simp [isSilent] at h
      | streaming source => simp [isSilent] at h
      | _ => exact ⟨rfl, rfl⟩

lemma Router.isSilent_streamIn {c : Call} (hstream : c.form.isStream = true)
    (hrefused : c.isAccepted = false) (pool : PoolRef) (r : Router δ) :
    (r.streamIn pool c.sql).result.isSilent = true := by
  obtain ⟨cause, hcause⟩ := r.streamIn_of_refused hstream hrefused pool
  rw [hcause]
  rfl

end Silence

/-! ## Steps that may be left out -/

/-- Whether a step leaves no trace: a poll of a silent stream, or a refused call that takes no turn.
Whether the stream of a poll is silent is for the session to tell. -/
def Step.isQuiet {δ : Type} (r : Router δ) : Step → Prop
  | .call _ c => c.isAccepted = false ∧ (c.form.isPoolRead = true → ¬r.hasTurns)
  | .poll _ => True

/-- A call that takes no turn leaves the router as it is. -/
lemma CallForm.turn_of_not_hasTurns {δ : Type} {form : CallForm} {r : Router δ}
    (h : form.isPoolRead = true → ¬r.hasTurns) : (form.turn r).2 = r := by
  rw [turn]
  split_ifs with hread
  · rw [Router.takeTurn_of_not_hasTurns (h hread)]
  · rfl

namespace Session

/-- The steps that are kept if those under some labels are left out. -/
def keep (gone : Nat → Bool) (steps : List Step) : List Step :=
  steps.filter fun next => !gone next.label

/-- What two sessions have in common of which one leaves out the steps under some labels. -/
structure Agree {δ : Type} (gone : Nat → Bool) (s t : Session δ) : Prop where
  router : s.router = t.router
  streams : ∀ label, gone label = false → s.streams label = t.streams label
  silent : ∀ label, gone label = true →
    ∀ stream, s.streams label = some stream → stream.isSilent = true

/-- What a step does under its own label depends on the router and the stream there. -/
lemma step_congr {δ : Type} [Driver δ] {s t : Session δ} {next : Step}
    (hrouter : s.router = t.router)
    (hstream : s.streams next.label = t.streams next.label) :
    (s.step next).1 = (t.step next).1 ∧ (s.step next).2.router = (t.step next).2.router ∧
      (s.step next).2.streams next.label = (t.step next).2.streams next.label := by
  obtain ⟨r, streams⟩ := s
  obtain ⟨_, streams'⟩ := t
  obtain rfl : r = _ := hrouter
  cases next with
  | call label c =>
      rw [step, step]
      cases hform : c.form.isStream with
      | false =>
          rw [call_of_not_isStream hform, call_of_not_isStream hform]
          exact ⟨rfl, rfl, hstream⟩
      | true =>
          rw [call_of_isStream hform, call_of_isStream hform]
          refine ⟨rfl, rfl, ?_⟩
          show Function.update streams label _ label = Function.update streams' label _ label
          rw [Function.update_self, Function.update_self]
  | poll label =>
      obtain hstream : streams label = streams' label := hstream
      rw [step, step, poll, poll]
      simp only [← hstream]
      cases hbefore : streams label with
      | none => exact ⟨rfl, rfl, hstream⟩
      | some stream =>
          refine ⟨rfl, rfl, ?_⟩
          show Function.update streams label _ label = Function.update streams' label _ label
          rw [Function.update_self, Function.update_self]

variable {δ : Type} [Driver δ] {gone : Nat → Bool} {s t : Session δ}

/-- **A step that is kept** answers the same, and the sessions agree after it. -/
theorem Agree.step_kept (h : Agree gone s t) {next : Step} (hkept : gone next.label = false) :
    (s.step next).1 = (t.step next).1 ∧ Agree gone (s.step next).2 (t.step next).2 := by
  obtain ⟨hanswer, hrouter, hstream⟩ := step_congr h.router (h.streams _ hkept)
  refine ⟨hanswer, hrouter, fun label hlabel => ?_, fun label hlabel => ?_⟩
  · by_cases hsame : label = next.label
    · rw [hsame, hstream]
    · rw [s.streams_step_of_ne hsame, t.streams_step_of_ne hsame]
      exact h.streams label hlabel
  · have hother : label ≠ next.label := fun hsame => by simp [hsame, hkept] at hlabel
    rw [s.streams_step_of_ne hother]
    exact h.silent label hlabel

/-- A quiet step leaves the router as it is and the stream under its label silent. -/
lemma step_quiet (h : Agree gone s t) {next : Step} (hgone : gone next.label = true)
    (hquiet : next.isQuiet s.router) :
    (s.step next).2.router = s.router ∧
      ∀ stream, (s.step next).2.streams next.label = some stream → stream.isSilent = true := by
  have hsilent := h.silent _ hgone
  cases next with
  | call label c =>
      obtain ⟨hrefused, hturn⟩ := hquiet
      rw [step]
      cases hform : c.form.isStream with
      | false =>
          rw [call_of_not_isStream hform]
          refine ⟨?_, hsilent⟩
          show Outcome.router (Router.dispatch _ _ _ _) = _
          rw [Router.dispatch_router_of_refused hrefused, CallForm.turn_of_not_hasTurns hturn]
      | true =>
          rw [call_of_isStream hform]
          refine ⟨?_, fun stream hstream => ?_⟩
          · show Outcome.router (Router.streamIn _ _ _) = _
            rw [Router.streamIn_router, CallForm.turn_of_not_hasTurns hturn]
          · obtain rfl : _ = stream := by
              simpa [afterStream, Step.label] using hstream
            exact Router.isSilent_streamIn hform hrefused _ _
  | poll label =>
      rw [step, poll]
      cases hbefore : s.streams label with
      | none => exact ⟨rfl, hsilent⟩
      | some stream =>
          obtain ⟨hrouter, hafter⟩ := RowStream.poll_silent (hsilent stream hbefore) s.router
          refine ⟨hrouter, fun later hlater => ?_⟩
          obtain rfl : _ = later := by simpa [Step.label] using hlater
          exact hafter

/-- **A quiet step that is left out** is not missed: the sessions agree after it. -/
theorem Agree.step_gone (h : Agree gone s t) {next : Step} (hgone : gone next.label = true)
    (hquiet : next.isQuiet s.router) : Agree gone (s.step next).2 t := by
  obtain ⟨hrouter, hsilent⟩ := step_quiet h hgone hquiet
  refine ⟨hrouter.trans h.router, fun label hlabel => ?_, fun label hlabel => ?_⟩
  · have hother : label ≠ next.label := fun hsame => by simp [hsame, hgone] at hlabel
    rw [s.streams_step_of_ne hother]
    exact h.streams label hlabel
  · by_cases hsame : label = next.label
    · rw [hsame]
      exact hsilent
    · rw [s.streams_step_of_ne hsame]
      exact h.silent label hlabel

/-- **Runs agree that leave out quiet steps.**  All other steps answer the same. -/
theorem Agree.run (h : Agree gone s t) {steps : List Step}
    (hquiet : ∀ next ∈ steps, gone next.label = true → next.isQuiet s.router) :
    (s.transcript steps).filter (fun entry => !gone entry.1.label) =
        t.transcript (keep gone steps) ∧
      Agree gone (s.run steps) (t.run (keep gone steps)) := by
  -- Both sessions vary: the second stands still at a step that is left out.
  induction steps generalizing s t with
  | nil => exact ⟨rfl, h⟩
  | cons next steps ih =>
      obtain ⟨hfirst, hrest⟩ := List.forall_mem_cons.mp hquiet
      have hrest : ∀ later ∈ steps, gone later.label = true →
          later.isQuiet (s.step next).2.router := by
        intro later hlater hgone
        have hbefore := hrest later hlater hgone
        cases later with
        | poll label => trivial
        | call label c =>
            refine ⟨hbefore.1, fun hread hturns => hbefore.2 hread ?_⟩
            exact (Router.hasTurns_congr (s.shape_step next)).mp hturns
      cases hgone : gone next.label with
      | true =>
          obtain ⟨hanswers, hagree⟩ := ih (h.step_gone hgone (hfirst hgone)) hrest
          have hkeep : keep gone (next :: steps) = keep gone steps := by
            simp [keep, hgone]
          rw [hkeep, transcript, List.filter_cons_of_neg (by simp [hgone])]
          exact ⟨hanswers, hagree⟩
      | false =>
          obtain ⟨hanswer, hstep⟩ := h.step_kept hgone
          obtain ⟨hanswers, hagree⟩ := ih hstep hrest
          have hkeep : keep gone (next :: steps) = next :: keep gone steps := by
            simp [keep, hgone]
          rw [hkeep, transcript, transcript, List.filter_cons_of_pos (by simp [hgone]), hanswers,
            hanswer]
          exact ⟨rfl, hagree⟩

/-! ## Traces -/

/-- Whether all calls under the labels that are left out are refused. -/
def RefusedOnly (gone : Nat → Bool) (steps : List Step) : Prop :=
  ∀ label c, .call label c ∈ steps → gone label = true → c.isAccepted = false

/-- Whether the steps under some labels leave no trace: without them all others answer the same, and
every driver receives the same statements. -/
def Untraced (r : Router ScriptedDriver) (gone : Nat → Bool) (steps : List Step) : Prop :=
  ((ofRouter r).transcript steps).filter (fun entry => !gone entry.1.label) =
      (ofRouter r).transcript (keep gone steps) ∧
    ((ofRouter r).run steps).router.drivers.map ScriptedDriver.received =
      ((ofRouter r).run (keep gone steps)).router.drivers.map ScriptedDriver.received

/-- Refused calls that take no turn leave no trace. -/
lemma untraced_of_quiet {r : Router ScriptedDriver} {gone : Nat → Bool} {steps : List Step}
    (hrefused : RefusedOnly gone steps)
    (hturns : ∀ label c, .call label c ∈ steps → gone label = true →
      c.form.isPoolRead = true → ¬r.hasTurns) : Untraced r gone steps := by
  have hstart : Agree gone (ofRouter r) (ofRouter r) :=
    ⟨rfl, fun _ _ => rfl, fun _ _ _ hnone => by simp [ofRouter] at hnone⟩
  have hquiet : ∀ next ∈ steps, gone next.label = true → next.isQuiet r := by
    intro next hnext hgone
    cases next with
    | call label c => exact ⟨hrefused label c hnext hgone, hturns label c hnext hgone⟩
    | poll label => trivial
  obtain ⟨hanswers, hagree⟩ := hstart.run hquiet
  exact ⟨hanswers, by rw [hagree.router]⟩

/-! ## Turns that are used up -/

section Turns

variable {s : Session ScriptedDriver} {c : Call}

/-- A read asks the pool whose turn it is, and uses the turn up. -/
lemma router_step_of_isPoolRead (hturns : s.router.hasTurns) (hread : c.form.isPoolRead = true)
    (hstream : c.form.isStream = false) (label : Nat) :
    (s.step (.call label c)).2.router =
      (Router.dispatch c.form.operation (.read (s.router.turns.toNat % s.router.reads.length)) c.sql
        { s.router with turns := s.router.turns + 1 }).router := by
  have hturn : c.form.turn s.router =
      (.read (s.router.turns.toNat % s.router.reads.length),
        { s.router with turns := s.router.turns + 1 }) := by
    rw [CallForm.turn, if_pos hread]
    exact Router.takeTurn_of_hasTurns hturns
  rw [step, call_of_not_isStream hstream, hturn]
  rfl

lemma router_step_of_refused (hturns : s.router.hasTurns) (hread : c.form.isPoolRead = true)
    (hstream : c.form.isStream = false) (hrefused : c.isAccepted = false) (label : Nat) :
    (s.step (.call label c)).2.router = { s.router with turns := s.router.turns + 1 } := by
  rw [router_step_of_isPoolRead hturns hread hstream]
  exact Router.dispatch_router_of_refused hrefused _ _

/-- A read that is accepted is received by the pool whose turn it is. -/
lemma received_step_of_isAccepted (hturns : s.router.hasTurns)
    (hlive : ∀ d ∈ s.router.reads, d.isShutDown = false) (hread : c.form.isPoolRead = true)
    (hstream : c.form.isStream = false) (haccepted : c.isAccepted = true) (label : Nat)
    {index : Nat} (hindex : index = s.router.turns.toNat % s.router.reads.length) :
    (s.step (.call label c)).2.router.reads[index]?.map ScriptedDriver.received =
      s.router.reads[index]?.map fun d => d.received ++ [c.sql] := by
  subst hindex
  rw [router_step_of_isPoolRead hturns hread hstream, Router.dispatch_of_isAccepted haccepted,
    Router.send_router]
  show (s.router.reads.set _ _)[s.router.turns.toNat % s.router.reads.length]?.map _ = _
  rw [List.getElem?_set_self']
  cases hd : s.router.reads[s.router.turns.toNat % s.router.reads.length]? with
  | none => rfl
  | some d =>
      have hdriver : Router.driver { s.router with turns := s.router.turns + 1 }
          (.read (s.router.turns.toNat % s.router.reads.length)) = d := by
        rw [Router.driver, List.getD_eq_getElem?_getD, hd]
        rfl
      have hopen : d.isShutDown = false := hlive d (List.mem_of_getElem? hd)
      rw [hdriver]
      show some (ScriptedDriver.execute d c.sql).2.received = some (d.received ++ [c.sql])
      rw [ScriptedDriver.execute, ScriptedDriver.receive, hopen]
      rfl

lemma reads_step_of_isAccepted (hturns : s.router.hasTurns) (hread : c.form.isPoolRead = true)
    (hstream : c.form.isStream = false) (haccepted : c.isAccepted = true) (label : Nat)
    {index : Nat} (hindex : index ≠ s.router.turns.toNat % s.router.reads.length) :
    (s.step (.call label c)).2.router.reads[index]? = s.router.reads[index]? := by
  rw [router_step_of_isPoolRead hturns hread hstream, Router.dispatch_of_isAccepted haccepted,
    Router.send_router]
  exact List.getElem?_set_ne (Ne.symm hindex)

end Turns

/-- A refused read, which is left out, and one that is not. -/
def wastedTurn : List Step :=
  [.call 0 ⟨.selectAll, "DELETE"⟩, .call 1 ⟨.selectAll, "SELECT"⟩]

/-- A delete is refused as a select. -/
lemma not_isAccepted_delete : Call.isAccepted ⟨.selectAll, "DELETE"⟩ = false := by
  decide +kernel

lemma refusedOnly_wastedTurn : RefusedOnly (fun label => label == 0) wastedTurn := by
  intro label c hcall hlabel
  obtain rfl : label = 0 := by simpa using hlabel
  obtain rfl : c = ⟨.selectAll, "DELETE"⟩ := by simpa [wastedTurn] using hcall
  exact not_isAccepted_delete

lemma RefusedOnly.cons_kept {gone : Nat → Bool} {steps : List Step} {label : Nat} {c : Call}
    (hkept : gone label = false) (h : RefusedOnly gone steps) :
    RefusedOnly gone (.call label c :: steps) := by
  intro other asked hcall hgone
  rcases List.mem_cons.mp hcall with hfirst | hrest
  · obtain ⟨rfl, -⟩ := Step.call.inj hfirst
    simp [hkept] at hgone
  · exact h other asked hrest hgone

/-- **A refused read is noticed where two turns in a row fall on two pools**: the next read asks
another pool than it would have asked. -/
lemma traced_of_ne {r : Router ScriptedDriver} (hturns : r.hasTurns)
    (hlive : ∀ d ∈ r.reads, d.isShutDown = false)
    (hother : r.turns.toNat % r.reads.length ≠ (r.turns + 1).toNat % r.reads.length) :
    ¬Untraced r (fun label => label == 0) wastedTurn := by
  have haccepted : Call.isAccepted ⟨.selectAll, "SELECT"⟩ = true := by decide +kernel
  rintro ⟨-, hreceived⟩
  have hlength := hturns.1
  have hindex : r.turns.toNat % r.reads.length < r.reads.length := Nat.mod_lt _ (by omega)
  -- The pool whose turn it is receives the select only where nothing was refused before it.
  have hafter := router_step_of_refused (s := ofRouter r) hturns rfl rfl not_isAccepted_delete 0
  have hwith : ((ofRouter r).run wastedTurn).router.reads[r.turns.toNat % r.reads.length]? =
      r.reads[r.turns.toNat % r.reads.length]? := by
    refine (reads_step_of_isAccepted ?_ rfl rfl haccepted 1 ?_).trans ?_
    · rw [hafter]
      exact hturns
    · rw [hafter]
      exact hother
    · rw [hafter]
      rfl
  have hwithout := received_step_of_isAccepted (s := ofRouter r) hturns hlive rfl rfl haccepted 1
    rfl
  have hsame := congrArg (fun received => received[r.turns.toNat % r.reads.length + 1]?) hreceived
  simp only [Router.drivers, List.map_cons, List.getElem?_cons_succ, List.getElem?_map] at hsame
  rw [hwith] at hsame
  have hboth := hsame.trans hwithout
  rw [ofRouter, List.getElem?_eq_getElem hindex] at hboth
  simp at hboth

/-- Where steps behind a refused read leave no trace, they leave none with its turn used up. -/
lemma Untraced.of_cons_refused {r : Router ScriptedDriver} {gone : Nat → Bool} {steps : List Step}
    {c : Call} {label : Nat} (hturns : r.hasTurns) (hread : c.form.isPoolRead = true)
    (hstream : c.form.isStream = false) (hrefused : c.isAccepted = false)
    (hkept : gone label = false) (h : Untraced r gone (.call label c :: steps)) :
    Untraced { r with turns := r.turns + 1 } gone steps := by
  have hstep : ((ofRouter r).step (.call label c)).2 =
      ofRouter { r with turns := r.turns + 1 } := by
    have hrouter := router_step_of_refused (s := ofRouter r) hturns hread hstream hrefused label
    rw [step, call_of_not_isStream hstream] at hrouter ⊢
    exact congrArg (Session.mk · _) hrouter
  obtain ⟨hanswers, hreceived⟩ := h
  have hkeep : keep gone (.call label c :: steps) = .call label c :: keep gone steps :=
    List.filter_cons_of_pos (by simp [Step.label, hkept])
  rw [hkeep, transcript, transcript, List.filter_cons_of_pos (by simp [Step.label, hkept]),
    hstep] at hanswers
  rw [hkeep, run, List.foldl_cons, run, List.foldl_cons, hstep] at hreceived
  exact ⟨(List.cons.inj hanswers).2, hreceived⟩

/-- Two turns in a row fall on two pools, unless the count of turns starts again between them. -/
lemma turn_ne_of_lt {turns : UInt64} {pools : Nat} (hpools : 2 ≤ pools)
    (hturns : turns.toNat + 1 < UInt64.size) :
    turns.toNat % pools ≠ (turns + 1).toNat % pools := by
  have hnext : (turns + 1).toNat = turns.toNat + 1 := by
    rw [UInt64.toNat_add]
    exact Nat.mod_eq_of_lt hturns
  have hone : 1 % pools = 1 := Nat.mod_eq_of_lt (by omega)
  have hindex : turns.toNat % pools < pools := Nat.mod_lt _ (by omega)
  rw [hnext, Nat.add_mod_eq_ite, hone]
  split_ifs <;> omega

/-- **A refused read is noticed where the read pools take turns.**  If the count of turns is about
to start again, a refused read that is kept takes its turn first. -/
lemma exists_traced {r : Router ScriptedDriver} (hturns : r.hasTurns)
    (hlive : ∀ d ∈ r.reads, d.isShutDown = false) :
    ∃ steps, RefusedOnly (fun label => label == 0) steps ∧
      ¬Untraced r (fun label => label == 0) steps := by
  by_cases hlast : r.turns.toNat + 1 < UInt64.size
  · exact ⟨wastedTurn, refusedOnly_wastedTurn,
      traced_of_ne hturns hlive (turn_ne_of_lt hturns.1 hlast)⟩
  · refine ⟨.call 2 ⟨.selectAll, "DELETE"⟩ :: wastedTurn, refusedOnly_wastedTurn.cons_kept rfl,
      fun huntraced => ?_⟩
    have hstart : (r.turns + 1).toNat = 0 := by
      have hsize : r.turns.toNat + 1 = UInt64.size :=
        Nat.le_antisymm r.turns.toNat_lt_size (Nat.le_of_not_lt hlast)
      rw [UInt64.toNat_add, UInt64.toNat_one, hsize]
      exact Nat.mod_self UInt64.size
    have hother : (r.turns + 1).toNat % r.reads.length ≠
        (r.turns + 1 + 1).toNat % r.reads.length :=
      turn_ne_of_lt hturns.1 (by rw [hstart]; decide)
    exact traced_of_ne (r := { r with turns := r.turns + 1 }) hturns hlive hother
      (huntraced.of_cons_refused hturns rfl rfl not_isAccepted_delete rfl)

/-- **When refused calls leave no trace.**  Those that take no turn never leave one.  Where the read
pools take turns, though, a read takes its turn before its statement is looked at, and so refused
calls in general leave no trace exactly if the pools take no turns. -/
theorem untraced_iff (r : Router ScriptedDriver) (hlive : ∀ d ∈ r.reads, d.isShutDown = false) :
    ((∀ gone steps, RefusedOnly gone steps → Untraced r gone steps) ↔
      ¬(2 ≤ r.reads.length ∧ r.options.readBalance = .roundRobin)) ∧
    ∀ gone steps, RefusedOnly gone steps →
      (∀ label c, .call label c ∈ steps → gone label = true → c.form.isPoolRead = false) →
      Untraced r gone steps := by
  refine ⟨⟨?_, ?_⟩, ?_⟩
  · intro huntraced hturns
    obtain ⟨steps, hrefused, htraced⟩ := exists_traced hturns hlive
    exact htraced (huntraced _ steps hrefused)
  · intro hturns gone steps hrefused
    exact untraced_of_quiet hrefused fun _ _ _ _ _ => hturns
  · intro gone steps hrefused hwrite
    refine untraced_of_quiet hrefused fun label c hcall hgone hread => ?_
    simp [hwrite label c hcall hgone] at hread

/-- Two read pools that take turns notice a refused read; a single one does not. -/
theorem untraced_iff_of_pools :
    let write := ScriptedDriver.ofScript "write" []
    let first := ScriptedDriver.ofScript "read-0" []
    let second := ScriptedDriver.ofScript "read-1" []
    let options : RouterOptions := ⟨.roundRobin, none, none⟩
    (¬∀ gone steps, RefusedOnly gone steps →
      Untraced (.ofDrivers write [first, second] options) gone steps) ∧
    ∀ gone steps, RefusedOnly gone steps →
      Untraced (.ofDrivers write [first] options) gone steps := by
  intro write first second options
  constructor
  · intro huntraced
    have hpools := untraced_iff (.ofDrivers write [first, second] options) (by decide)
    exact hpools.1.mp huntraced ⟨Nat.le_refl 2, rfl⟩
  · have hpool := untraced_iff (.ofDrivers write [first] options) (by decide)
    exact hpool.1.mpr (by decide)

end Session

end SqlAccess
