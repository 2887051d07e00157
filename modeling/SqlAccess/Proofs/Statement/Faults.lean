import Mathlib.Tactic.Common
import SqlAccess.Proofs.Statement.Request
import SqlAccess.Proofs.Success

/-!
# Whose failure it is that a statement cannot be built

A statement that cannot be built fails for a fault in its arguments, and that is a failure of
validation.  There is one exception: an argument may be something of the caller's own, which may
answer any failure when it is asked for its record or its filter.  That failure is handed on as it
is.

**`Request.failsAs_build`** says that there is no other.  It is proved step by step along the
building of a statement: `FailsAs` tells of one step how it may fail, and passes from the steps to
the whole.
-/

namespace SqlAccess

variable {ε ε' α β : Type}

/-! ## Failing -/

/-- Whether a step fails as a failure of validation or else in a way that `own` tells of, where
`toError` is what becomes of its faults. -/
def FailsAs (toError : ε → Error) (own : Error → Prop) (x : Except ε α) : Prop :=
  ∀ cause, x = .error cause → (∃ text, toError cause = .validation text) ∨ own (toError cause)

namespace FailsAs

variable {toError : ε → Error} {own own' : Error → Prop}

lemma ok (a : α) : FailsAs toError own (.ok a) := by
  intro cause h
  simp at h

lemma validation {cause : ε} (h : ∃ text, toError cause = .validation text) :
    FailsAs toError own (.error cause : Except ε α) := by
  intro other hother
  obtain rfl := Except.error.inj hother
  exact .inl h

/-- Two steps fail as either of them. -/
lemma bind {x : Except ε α} {f : α → Except ε β} (hx : FailsAs toError own x)
    (hf : ∀ a, FailsAs toError own (f a)) : FailsAs toError own (x >>= f) := by
  intro cause h
  rcases bind_eq_error.mp h with hfirst | ⟨a, -, hsecond⟩
  · exact hx cause hfirst
  · exact hf a cause hsecond

lemma map {x : Except ε α} {f : α → β} (hx : FailsAs toError own x) :
    FailsAs toError own (x.map f) :=
  fun cause h => hx cause (map_eq_error.mp h)

/-- A step fails as its faults do in other words. -/
lemma mapError {toError' : ε' → Error} {x : Except ε α} {f : ε → ε'}
    (h : FailsAs (fun cause => toError' (f cause)) own x) :
    FailsAs toError' own (x.mapError f) := by
  intro cause hcause
  cases x with
  | ok a => simp [Except.mapError] at hcause
  | error fault =>
      obtain rfl := Except.error.inj hcause
      exact h fault rfl

lemma mono {x : Except ε α} (hx : FailsAs toError own x) (h : ∀ e, own e → own' e) :
    FailsAs toError own' x :=
  fun cause hcause => (hx cause hcause).imp_right (h _)

end FailsAs

/-! ## Records -/

/-- A JSON value that is no record is a fault in the arguments. -/
lemma failsAs_recordOfMembers (own : Error → Prop) (r : Record) (members : List (String × Json)) :
    FailsAs RecordError.toError own (recordOfMembers r members) := by
  induction members generalizing r with
  | nil => exact .ok r
  | cons member members ih =>
      rw [recordOfMembers]
      split
      · exact .validation ⟨_, rfl⟩
      · exact ih _

/-- **A source of a record fails as something of the caller's own, or as a fault.** -/
lemma RecordSource.failsAs_toRecord (source : RecordSource) :
    FailsAs RecordError.toError (fun e => source = .own (.error e)) source.toRecord := by
  cases source with
  | record r => exact .ok r
  | json j =>
      cases j with
      | object members => exact failsAs_recordOfMembers _ .empty members
      | _ => exact .validation ⟨_, rfl⟩
  | own answer =>
      refine .mapError fun cause h => .inr ?_
      rw [h]
      rfl

/-! ## Filters -/

section Filters

variable (own : Error → Prop)

lemma Filter.failsAs_operatorsOfJson (column : String) (members : List (String × Json)) :
    FailsAs FilterError.toError own (operatorsOfJson column members) := by
  induction members with
  | nil => exact .ok []
  | cons member members ih =>
      refine .bind ?_ fun _ => .bind ih fun _ => .ok _
      unfold operatorOfJson
      split
      · exact .validation ⟨_, rfl⟩
      · split
        · exact .validation ⟨_, rfl⟩
        · exact .ok _

lemma Filter.failsAs_conditionOfJson (column : String) (j : Json) :
    FailsAs FilterError.toError own (conditionOfJson column j) := by
  unfold conditionOfJson
  split
  · exact .validation ⟨_, rfl⟩
  · exact .map (failsAs_operatorsOfJson own column _)
  · split
    · exact .validation ⟨_, rfl⟩
    · exact .ok _

lemma Filter.failsAs_putMembers (f : Filter) (members : List (String × Json)) :
    FailsAs FilterError.toError own (f.putMembers members) := by
  induction members generalizing f with
  | nil => exact .ok f
  | cons member members ih => exact .bind (failsAs_conditionOfJson own _ _) fun _ => ih _

/-- A filter without SQL is a fault in the arguments. -/
lemma Filter.failsAs_whereSql? (f : Filter) : FailsAs FilterError.toError own f.whereSql? := by
  refine .bind ?_ fun _ => .ok _
  unfold predicates
  induction f.entries with
  | nil => exact .ok []
  | cons entry entries ih =>
      refine .bind (.bind ?_ fun column => ?_) fun _ => .bind ih fun _ => .ok _
      · exact .mapError fun _ _ => .inl ⟨_, rfl⟩
      · exact .mapError fun _ _ => .inl ⟨_, rfl⟩

end Filters

/-- **A source of a filter fails as something of the caller's own, or as a fault.** -/
lemma FilterSource.failsAs_toFilter (source : FilterSource) :
    FailsAs FilterError.toError (fun e => source = .own (.error e)) source.toFilter := by
  cases source with
  | filter f => exact .ok f
  | json j =>
      cases j with
      | object members => exact Filter.failsAs_putMembers _ .empty members
      | _ => exact .validation ⟨_, rfl⟩
  | record r => exact .ok _
  | own answer =>
      refine .mapError fun cause h => .inr ?_
      rw [h]
      rfl

/-! ## Parts of statements -/

section Parts

variable {own : Error → Prop}

lemma failsAs_statementFilter {source : FilterSource}
    (h : ∀ e, source = .own (.error e) → own e) :
    FailsAs StatementError.toError own (statementFilter source) :=
  .mapError (source.failsAs_toFilter.mono h)

lemma failsAs_statementRecord {source : RecordSource}
    (h : ∀ e, source = .own (.error e) → own e) :
    FailsAs StatementError.toError own (statementRecord source) :=
  .mapError (source.failsAs_toRecord.mono h)

lemma failsAs_statementColumn (name : String) :
    FailsAs StatementError.toError own (statementColumn name) :=
  .mapError fun _ _ => .inl ⟨_, rfl⟩

lemma failsAs_writtenValue (key : String) (value : Value) :
    FailsAs StatementError.toError own (writtenValue key value) := by
  unfold writtenValue
  split_ifs
  · exact .validation ⟨_, rfl⟩
  · exact .ok _

lemma failsAs_whereClause (f : Filter) : FailsAs StatementError.toError own (whereClause f) := by
  refine .bind (.mapError (f.failsAs_whereSql? own)) fun condition? => ?_
  split
  · exact .ok _
  · exact .ok _

lemma failsAs_orderClause (sort : List (String × SortDirection)) :
    FailsAs StatementError.toError own (orderClause sort) := by
  refine .bind ?_ fun _ => .ok _
  induction sort with
  | nil => exact .ok []
  | cons key sort ih =>
      exact .bind (failsAs_statementColumn _) fun _ => .bind ih fun _ => .ok _

lemma failsAs_statementColumns (names : List String) :
    FailsAs StatementError.toError own (statementColumns names) := by
  induction names with
  | nil => exact .ok []
  | cons name names ih =>
      exact .bind (failsAs_statementColumn _) fun _ => .bind ih fun _ => .ok _

lemma failsAs_setColumns (names : List String) (row : Nat) (set : Entries String)
    (entries : Entries Value) :
    FailsAs StatementError.toError own (setColumns names row set entries) := by
  induction entries generalizing set with
  | nil => exact .ok set
  | cons entry entries ih =>
      refine .bind (failsAs_statementColumn _) fun column => ?_
      dsimp only
      split_ifs
      · exact .validation ⟨_, rfl⟩
      · exact .validation ⟨_, rfl⟩
      · exact .bind (failsAs_writtenValue _ _) fun _ => ih _

lemma failsAs_literalsInOrder (row : Nat) (set : Entries String) (names : List String) :
    FailsAs StatementError.toError own (literalsInOrder row set names) := by
  induction names with
  | nil => exact .ok []
  | cons name names ih =>
      rw [literalsInOrder]
      split
      · exact .validation ⟨_, rfl⟩
      · exact .map ih

lemma failsAs_rowLiterals (names : List String) (row : Nat) (record : Record) :
    FailsAs StatementError.toError own (rowLiterals names row record) :=
  .bind (failsAs_setColumns _ _ _ _) fun set => failsAs_literalsInOrder _ set names

lemma failsAs_assignmentsOf (entries : Entries Value) :
    FailsAs StatementError.toError own (assignmentsOf entries) := by
  induction entries with
  | nil => exact .ok []
  | cons entry entries ih =>
      refine .bind (failsAs_statementColumn _) fun column => ?_
      exact .bind (failsAs_writtenValue _ _) fun _ => .bind ih fun _ => .ok _

lemma failsAs_insertedAssignments (names : List String) :
    FailsAs StatementError.toError own (insertedAssignments names) := by
  induction names with
  | nil => exact .ok []
  | cons name names ih =>
      exact .bind (failsAs_statementColumn _) fun _ => .bind ih fun _ => .ok _

lemma OnDuplicate.failsAs_sql (onDuplicate : OnDuplicate) :
    FailsAs StatementError.toError own onDuplicate.sql := by
  have hjoined (assignments : List String) : FailsAs StatementError.toError own
      (if assignments.isEmpty then .error .noDuplicateColumns
        else .ok (", ".intercalate assignments)) := by
    split_ifs
    · exact .validation ⟨_, rfl⟩
    · exact .ok _
  cases onDuplicate with
  | values r => exact .bind (failsAs_assignmentsOf r.entries) hjoined
  | columns names => exact .bind (failsAs_insertedAssignments names) hjoined

lemma Statement.failsAs_requiredWhere (table : Ident) (verb : String) (f : Filter) :
    FailsAs StatementError.toError own (requiredWhere table verb f) := by
  unfold requiredWhere
  split_ifs
  · exact .validation ⟨_, rfl⟩
  · exact failsAs_whereClause f

/-- Rows fail to line up as one of them, or as a fault. -/
lemma failsAs_furtherRows (names : List String) (row : Nat) {sources : List RecordSource}
    (h : ∀ e, .own (.error e) ∈ sources → own e) :
    FailsAs StatementError.toError own (furtherRows names row sources) := by
  induction sources generalizing row with
  | nil => exact .ok []
  | cons source sources ih =>
      refine .bind (failsAs_statementRecord fun e hfirst => ?_) fun record => ?_
      · exact h e (List.mem_cons.mpr (.inl hfirst.symm))
      · have hothers := ih (row + 1) fun e hother => h e (List.mem_cons_of_mem source hother)
        exact .bind (failsAs_rowLiterals _ _ _) fun _ => .bind hothers fun _ => .ok _

lemma InsertRows.failsAs_ofSources {sources : List RecordSource}
    (h : ∀ e, .own (.error e) ∈ sources → own e) :
    FailsAs StatementError.toError own (InsertRows.ofSources sources) := by
  cases sources with
  | nil => exact .validation ⟨_, rfl⟩
  | cons first others =>
      refine .bind (failsAs_statementRecord fun e hfirst => ?_) fun record => ?_
      · exact h e (List.mem_cons.mpr (.inl hfirst.symm))
      · split_ifs
        · exact .validation ⟨_, rfl⟩
        · refine .bind (failsAs_statementColumns _) fun columns => ?_
          refine .bind (failsAs_rowLiterals _ _ _) fun literals => ?_
          exact .bind (failsAs_furtherRows _ _ fun e hother =>
            h e (List.mem_cons_of_mem first hother)) fun _ => .ok _

end Parts

/-! ## Statements -/

namespace Request

/-- Whether something of the caller's own among the arguments of a request answers a failure. -/
def OwnFails (e : Error) : Request → Prop
  | .select filter _ | .count filter | .delete filter | .deleteOne filter =>
    filter = .own (.error e)
  | .insert rows _ | .upsertBulk rows _ => .own (.error e) ∈ rows
  | .insertOne row _ | .upsert row _ => row = .own (.error e)
  | .update filter args | .updateOne filter args =>
    filter = .own (.error e) ∨ args = .own (.error e)

end Request

namespace Statement

variable {own : Error → Prop} {table : Ident} {filter : FilterSource}

lemma failsAs_select {options : QueryOptions} (h : ∀ e, filter = .own (.error e) → own e) :
    FailsAs StatementError.toError own (select table filter options) := by
  refine .bind ?_ fun _ => .bind (failsAs_statementFilter h) fun f => ?_
  · unfold checkOptions
    split_ifs
    · exact .ok ()
    · exact .validation ⟨_, rfl⟩
  · exact .bind (failsAs_whereClause f) fun _ =>
      .bind (failsAs_orderClause _) fun _ => .ok _

lemma failsAs_count (h : ∀ e, filter = .own (.error e) → own e) :
    FailsAs StatementError.toError own (count table filter) :=
  .bind (failsAs_statementFilter h) fun f => .bind (failsAs_whereClause f) fun _ => .ok _

lemma failsAs_insert {rows : List RecordSource} {mode : InsertMode}
    (h : ∀ e, .own (.error e) ∈ rows → own e) :
    FailsAs StatementError.toError own (insert table rows mode) := by
  refine .bind (InsertRows.failsAs_ofSources h) fun _ => ?_
  cases mode with
  | plain => exact .ok _
  | ignoreDuplicates => exact .ok _

lemma failsAs_upsertBulk {rows : List RecordSource} {onDuplicate : OnDuplicate}
    (h : ∀ e, .own (.error e) ∈ rows → own e) :
    FailsAs StatementError.toError own (upsertBulk table rows onDuplicate) :=
  .bind (InsertRows.failsAs_ofSources h) fun _ =>
    .bind onDuplicate.failsAs_sql fun _ => .ok _

lemma failsAs_update {args : RecordSource} (hfilter : ∀ e, filter = .own (.error e) → own e)
    (hargs : ∀ e, args = .own (.error e) → own e) :
    FailsAs StatementError.toError own (update table filter args) := by
  refine .bind (failsAs_statementFilter hfilter) fun f => ?_
  refine .bind (failsAs_statementRecord hargs) fun record => ?_
  split_ifs
  · exact .validation ⟨_, rfl⟩
  · exact .bind (failsAs_assignmentsOf _) fun _ =>
      .bind (failsAs_requiredWhere _ _ f) fun _ => .ok _

lemma failsAs_delete (h : ∀ e, filter = .own (.error e) → own e) :
    FailsAs StatementError.toError own (delete table filter) :=
  .bind (failsAs_statementFilter h) fun f =>
    .bind (failsAs_requiredWhere _ _ f) fun _ => .ok _

end Statement

/-- **A request fails as something of the caller's own among its arguments, or as a failure of
validation.** -/
theorem Request.failsAs_build (table : Ident) (request : Request) :
    FailsAs StatementError.toError (request.OwnFails ·) (request.build table) := by
  cases request with
  | select filter options => exact Statement.failsAs_select fun e h => h
  | count filter => exact Statement.failsAs_count fun e h => h
  | insert rows mode => exact Statement.failsAs_insert fun e h => h
  | insertOne row mode =>
      exact Statement.failsAs_insert fun e h => (List.mem_singleton.mp h).symm
  | upsert row onDuplicate =>
      exact Statement.failsAs_upsertBulk fun e h => (List.mem_singleton.mp h).symm
  | upsertBulk rows onDuplicate => exact Statement.failsAs_upsertBulk fun e h => h
  | update filter args => exact Statement.failsAs_update (fun e h => .inl h) fun e h => .inr h
  | updateOne filter args =>
      exact .map (Statement.failsAs_update (fun e h => .inl h) fun e h => .inr h)
  | delete filter => exact Statement.failsAs_delete fun e h => h
  | deleteOne filter => exact .map (Statement.failsAs_delete fun e h => h)

end SqlAccess
