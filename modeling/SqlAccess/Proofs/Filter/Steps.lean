import Mathlib.Data.List.Induction
import SqlAccess.Filter
import SqlAccess.Proofs.Entries

/-!
# Filters built step by step

A filter is built by steps of which each names one column.  Some of them set the condition of their
column and some add an operator to it, and they come in any order.

What a step makes of its column depends on what the column has so far and on nothing else
(`Filter.take_eq`).  So every column has a history of its own, and the filter is made of these
histories.

* `Filter.Step` — the steps; `Filter.ofSteps` is the filter that they build.
* `Filter.Change.apply` — what a change makes of the condition of its column.
* **`Filter.entries_ofSteps`** — the columns of the filter stand in the order of their first
  mention, each once, and each with what its own steps build.  Steps on other columns may come
  before, behind or between them.
-/

namespace SqlAccess

namespace Filter

/-! ## Steps -/

/-- What a step does to its column. -/
inductive Change where
  /-- Sets the condition. -/
  | put (condition : Condition)
  | eq (value : Value)
  | isNull
  | isNotNull
  | oneOf (values : List Value)
  | notOneOf (values : List Value)
  | ne (value : Value)
  | gt (value : Value)
  | gte (value : Value)
  | lt (value : Value)
  | lte (value : Value)
  | like (pattern : Value)
  | raw (sql : String)
  /-- Adds an operator. -/
  | and (op : Operator) (value : Value)

/-- One step of building a filter. -/
structure Step where
  column : String
  change : Change

/-- The filter after one step more. -/
def take (f : Filter) (step : Step) : Filter :=
  match step.change with
  | .put condition => f.put step.column condition
  | .eq value => f.eq step.column value
  | .isNull => f.isNull step.column
  | .isNotNull => f.isNotNull step.column
  | .oneOf values => f.oneOf step.column values
  | .notOneOf values => f.notOneOf step.column values
  | .ne value => f.ne step.column value
  | .gt value => f.gt step.column value
  | .gte value => f.gte step.column value
  | .lt value => f.lt step.column value
  | .lte value => f.lte step.column value
  | .like pattern => f.like step.column pattern
  | .raw sql => f.raw step.column sql
  | .and op value => f.and step.column op value

/-- The filter that steps build, one after the other. -/
def ofSteps (steps : List Step) : Filter :=
  steps.foldl take empty

/-- The steps on one column, in order. -/
def stepsOn (column : String) (steps : List Step) : List Step :=
  steps.filter (·.column = column)

/-! ## What a step makes of its column -/

namespace Change

/-- What a column has after a change, from what it had before. -/
def apply (condition? : Option Condition) : Change → Condition
  | .put condition => condition
  | .eq value => .equals value
  | .isNull => .equals .null
  | .isNotNull => extended .ne .null condition?
  | .oneOf values => extended .oneOf (.list values) condition?
  | .notOneOf values => extended .notOneOf (.list values) condition?
  | .ne value => extended .ne value condition?
  | .gt value => extended .gt value condition?
  | .gte value => extended .gte value condition?
  | .lt value => extended .lt value condition?
  | .lte value => extended .lte value condition?
  | .like pattern => extended .like pattern condition?
  | .raw sql => extended .raw (.raw sql) condition?
  | .and op value => extended op value condition?

end Change

/-- **A step sets the condition of its column**, to something that depends on what the column had
before. -/
lemma take_eq (f : Filter) (step : Step) :
    f.take step = f.put step.column (step.change.apply (f.entries.find? step.column)) := by
  obtain ⟨column, change⟩ := step
  cases change <;> rfl

lemma keys_take (f : Filter) (step : Step) :
    (f.take step).entries.keys =
      if step.column ∈ f.entries.keys then f.entries.keys
      else f.entries.keys ++ [step.column] := by
  rw [take_eq]
  exact Entries.keys_put _ _ _

lemma find?_take (f : Filter) (step : Step) (column : String) :
    (f.take step).entries.find? column =
      if step.column = column then some (step.change.apply (f.entries.find? column))
      else f.entries.find? column := by
  rw [take_eq, put, Entries.find?_put]
  split_ifs with h h' h'
  · rw [h]
  · exact absurd h.symm h'
  · exact absurd h'.symm h
  · rfl

/-! ## What the steps on a column leave it with -/

lemma ofSteps_concat (steps : List Step) (step : Step) :
    ofSteps (steps ++ [step]) = (ofSteps steps).take step := by
  rw [ofSteps, List.foldl_append]
  rfl

lemma stepsOn_concat (column : String) (steps : List Step) (step : Step) :
    stepsOn column (steps ++ [step]) =
      stepsOn column steps ++ if step.column = column then [step] else [] := by
  rw [stepsOn, List.filter_append, List.filter_singleton, ← stepsOn]
  by_cases h : step.column = column <;> simp [h]

/-- Columns stand in the order of their first mention. -/
lemma keys_ofSteps (steps : List Step) :
    (ofSteps steps).entries.keys = (steps.map Step.column).eraseDups := by
  induction steps using List.reverseRecOn with
  | nil => rfl
  | append_singleton steps step ih =>
      rw [ofSteps_concat, keys_take, ih, List.map_append, List.map_singleton,
        Entries.eraseDups_concat]
      simp only [List.mem_eraseDups]

lemma nodup_keys_ofSteps (steps : List Step) : (ofSteps steps).entries.keys.Nodup := by
  induction steps using List.reverseRecOn with
  | nil => exact List.nodup_nil
  | append_singleton steps step ih =>
      rw [ofSteps_concat, take_eq]
      exact Entries.nodup_keys_put ih _ _

/-- **The steps on a column build its entry**, and nothing else, whatever stands between them. -/
lemma entries_ofSteps_stepsOn (column : String) (steps : List Step) :
    (ofSteps (stepsOn column steps)).entries =
      ((ofSteps steps).entries.find? column).toList.map (column, ·) := by
  induction steps using List.reverseRecOn with
  | nil => rfl
  | append_singleton steps step ih =>
      rw [stepsOn_concat, ofSteps_concat, find?_take]
      by_cases h : step.column = column
      · rw [if_pos h, if_pos h, ofSteps_concat, take_eq, h, put, ih]
        cases (ofSteps steps).entries.find? column <;> simp [Entries.find?, Entries.put]
      · rw [if_neg h, if_neg h, List.append_nil, ih]

lemma mem_entries_ofSteps_iff {steps : List Step} {column : String} {condition : Condition} :
    (column, condition) ∈ (ofSteps steps).entries ↔
      (ofSteps (stepsOn column steps)).entries = [(column, condition)] := by
  rw [← Entries.find?_eq_some_iff (nodup_keys_ofSteps steps), entries_ofSteps_stepsOn]
  cases (ofSteps steps).entries.find? column <;> simp

/-- **Columns do not get in each other's way.**  Steps build a filter whose columns stand in the
order of their first mention, each once; and each has the condition that its own steps alone would
build.  So in whatever order steps on different columns are taken, the filter has the same entries.
-/
theorem entries_ofSteps (steps : List Step) :
    (ofSteps steps).entries.keys.Nodup ∧
      (ofSteps steps).entries.keys = (steps.map Step.column).eraseDups ∧
      (∀ column condition, (column, condition) ∈ (ofSteps steps).entries ↔
        (ofSteps (stepsOn column steps)).entries = [(column, condition)]) ∧
      ∀ others : List Step, (∀ column, stepsOn column others = stepsOn column steps) →
        (ofSteps others).entries.Perm (ofSteps steps).entries := by
  refine ⟨nodup_keys_ofSteps steps, keys_ofSteps steps, fun _ _ => mem_entries_ofSteps_iff, ?_⟩
  intro others hothers
  have hnodup (steps : List Step) : (ofSteps steps).entries.Nodup :=
    (nodup_keys_ofSteps steps).of_map
  refine (List.perm_ext_iff_of_nodup (hnodup others) (hnodup steps)).mpr ?_
  rintro ⟨column, condition⟩
  rw [mem_entries_ofSteps_iff, mem_entries_ofSteps_iff, hothers column]

/-- Two columns that get operators and equalities in turn. -/
theorem entries_ofSteps_of_turns :
    let steps : List Step :=
      [⟨"age", .gt (.int 1)⟩, ⟨"name", .eq (.text "Doe")⟩, ⟨"age", .isNull⟩,
        ⟨"name", .like (.text "D%")⟩, ⟨"age", .ne (.int 3)⟩, ⟨"name", .isNotNull⟩]
    let grouped : List Step :=
      [⟨"name", .eq (.text "Doe")⟩, ⟨"name", .like (.text "D%")⟩, ⟨"name", .isNotNull⟩,
        ⟨"age", .gt (.int 1)⟩, ⟨"age", .isNull⟩, ⟨"age", .ne (.int 3)⟩]
    (ofSteps steps).entries =
        [("age", .ops [(.ne, .int 3)]), ("name", .ops [(.like, .text "D%"), (.ne, .null)])] ∧
      (∀ column, stepsOn column grouped = stepsOn column steps) ∧
      (ofSteps grouped).entries.Perm (ofSteps steps).entries := by
  intro steps grouped
  have hsame (column : String) : stepsOn column grouped = stepsOn column steps := by
    by_cases hname : "name" = column
    · subst hname
      rfl
    · by_cases hage : "age" = column
      · subst hage
        rfl
      · simp [stepsOn, steps, grouped, hname, hage]
  exact ⟨rfl, hsame, (entries_ofSteps steps).2.2.2 grouped hsame⟩

end Filter

end SqlAccess
