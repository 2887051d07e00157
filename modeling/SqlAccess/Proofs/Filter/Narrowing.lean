import SqlAccess.Proofs.Entries
import SqlAccess.Proofs.Filter.Demands

/-!
# Filters with one operator more

An operator that is added to a filter is one predicate more in its condition.  The predicates are
joined by `AND`, so as long as those that were there stay, fewer rows pass.

They do stay, with one exception.  A column has either an equality or operators, so an operator that
comes to a column with an equality takes the place of the equality (`Filter.and_loses_equality`).
The rows that pass afterwards need not have passed before.

* `Filter.Joins` — the predicates that a condition joins.
* `equalityOf` — the equality that gives way, if there is one.
* **`Filter.and_narrows`** — the predicates of the filter are those that it had, in their order, but
  for that equality; and the predicate of the operator, which takes the place of the equality if
  there is one.
-/

namespace SqlAccess

/-! ## The predicates that a condition joins -/

/-- `f.Joins groups condition?`: the condition of the filter joins these predicates, column by
column. -/
structure Filter.Joins (f : Filter) (groups : List (List Predicate)) (condition? : Option String) :
    Prop where
  predicates : f.predicates = .ok groups
  condition : condition? =
    if groups.isEmpty then none else some (conjunction (groups.map Filter.groupSql))

lemma Filter.exists_joins {f : Filter} {condition? : Option String} :
    f.whereSql? = .ok condition? ↔ ∃ groups, f.Joins groups condition? := by
  rw [Filter.whereSql?, bind_eq_ok]
  constructor
  · rintro ⟨groups, hgroups, h⟩
    exact ⟨groups, hgroups, (Except.ok.inj h).symm⟩
  · rintro ⟨groups, hgroups, rfl⟩
    exact ⟨groups, hgroups, rfl⟩

/-! ## One column -/

/-- The operators that a column has, in order. -/
def operatorsOf : Option Condition → List (Operator × Value)
  | some (.ops ops) => ops
  | _ => []

/-- The predicate of the equality that a column has, if it has one. -/
def equalityOf (column : Column) : Option Condition → List Predicate
  | some (.equals value) => [equality column.sql value]
  | _ => []

lemma extended_eq (op : Operator) (value : Value) (condition? : Option Condition) :
    Filter.extended op value condition? = .ops (operatorsOf condition? ++ [(op, value)]) := by
  rcases condition? with _ | ⟨_ | _⟩ <;> rfl

/-- A condition is its operators or its equality. -/
lemma predicates_eq_append {column : Column} {condition : Condition}
    {predicates : List Predicate} (h : condition.predicates column = .ok predicates) :
    ∃ kept, operatorPredicates column.quotedSql (operatorsOf (some condition)) = .ok kept ∧
      predicates = kept ++ equalityOf column (some condition) := by
  cases condition with
  | equals value =>
      obtain rfl := Except.ok.inj h
      exact ⟨[], rfl, rfl⟩
  | ops ops =>
      cases ops with
      | nil => cases h
      | cons op ops => exact ⟨predicates, h, (List.append_nil predicates).symm⟩

/-- With one operator more, the operators stay and the equality does not. -/
lemma predicates_extended {column : Column} {op : Operator} {value : Value}
    {condition? : Option Condition} {predicates : List Predicate}
    (h : (Filter.extended op value condition?).predicates column = .ok predicates) :
    ∃ kept added, operatorPredicates column.quotedSql (operatorsOf condition?) = .ok kept ∧
      op.predicate column.quotedSql value = .ok added ∧ predicates = kept ++ [added] := by
  have hops : operatorPredicates column.quotedSql (operatorsOf condition? ++ [(op, value)]) =
      .ok predicates := by
    rw [extended_eq] at h
    revert h
    cases operatorsOf condition? <;> exact id
  obtain ⟨kept, last, hkept, hlast, rfl⟩ :=
    forall₂_append_left_iff.mp (operatorPredicates_eq_ok_iff.mp hops)
  obtain ⟨added, _, hadded, hnil, rfl⟩ := List.forall₂_cons_left_iff.mp hlast
  obtain rfl := List.forall₂_nil_left_iff.mp hnil
  exact ⟨kept, added, operatorPredicates_eq_ok_iff.mpr hkept, hadded, rfl⟩

/-! ## Filters -/

namespace Filter

lemma predicatesOf_append {entries others : Entries Condition} {groups : List (List Predicate)} :
    predicatesOf (entries ++ others) = .ok groups ↔
      ∃ first second, predicatesOf entries = .ok first ∧ predicatesOf others = .ok second ∧
        groups = first ++ second := by
  simp only [predicatesOf_eq_ok_iff]
  exact forall₂_append_left_iff

lemma predicatesOf_cons {name : String} {condition : Condition} {entries : Entries Condition}
    {groups : List (List Predicate)} :
    predicatesOf ((name, condition) :: entries) = .ok groups ↔
      ∃ group others, entryPredicates name condition = .ok group ∧
        predicatesOf entries = .ok others ∧ groups = group :: others := by
  simp only [predicatesOf_eq_ok_iff]
  exact List.forall₂_cons_left_iff

/-- What one operator more makes of the predicates that a filter has for a column. -/
lemma entryPredicates_extended {name : String} {op : Operator} {value : Value}
    {condition? : Option Condition} {predicates : List Predicate} {groups : List (List Predicate)}
    (h : entryPredicates name (extended op value condition?) = .ok predicates)
    (hgroups : predicatesOf (condition?.toList.map (name, ·)) = .ok groups) :
    ∃ column kept added, Column.normalize name = .ok column ∧
      op.predicate column.quotedSql value = .ok added ∧
      groups.flatten = kept ++ equalityOf column condition? ∧ predicates = kept ++ [added] := by
  obtain ⟨column, hcolumn, h⟩ := entryPredicates_eq_ok.mp h
  obtain ⟨kept, added, hkept, hadded, rfl⟩ := predicates_extended h
  refine ⟨column, kept, added, hcolumn, hadded, ?_, rfl⟩
  cases condition? with
  | none =>
      obtain rfl := Except.ok.inj hgroups
      obtain rfl := Except.ok.inj hkept
      rfl
  | some condition =>
      obtain ⟨group, _, hgroup, hnil, rfl⟩ := predicatesOf_cons.mp hgroups
      obtain rfl := Except.ok.inj hnil
      obtain ⟨_, hsame, hgroup⟩ := entryPredicates_eq_ok.mp hgroup
      obtain rfl := Except.ok.inj (hcolumn.symm.trans hsame)
      obtain ⟨_, hsame, rfl⟩ := predicates_eq_append hgroup
      obtain rfl := Except.ok.inj (hkept.symm.trans hsame)
      simp

/-- What one operator more makes of all the predicates of a filter. -/
lemma flatten_and {f : Filter} {name : String} {op : Operator} {value : Value}
    {groups narrowed : List (List Predicate)} (h : f.predicates = .ok groups)
    (hand : (f.and name op value).predicates = .ok narrowed) :
    ∃ column added before after, Column.normalize name = .ok column ∧
      op.predicate column.quotedSql value = .ok added ∧
      groups.flatten = before ++ equalityOf column (f.entries.find? name) ++ after ∧
      narrowed.flatten = before ++ added :: after := by
  obtain ⟨before, after, hentries, hput⟩ := f.entries.exists_put name
  change predicatesOf f.entries = .ok groups at h
  change predicatesOf (f.entries.put name _) = .ok narrowed at hand
  rw [hentries, predicatesOf_append] at h
  rw [hput, predicatesOf_append] at hand
  obtain ⟨_, last, h, hlast, rfl⟩ := h
  obtain ⟨first, own, hfirst, hown, rfl⟩ := predicatesOf_append.mp h
  obtain ⟨_, _, hsame, hand, rfl⟩ := hand
  obtain rfl := Except.ok.inj (hfirst.symm.trans hsame)
  obtain ⟨group, _, hgroup, hsame, rfl⟩ := predicatesOf_cons.mp hand
  obtain rfl := Except.ok.inj (hlast.symm.trans hsame)
  obtain ⟨column, kept, added, hcolumn, hadded, hflatten, rfl⟩ :=
    entryPredicates_extended hgroup hown
  refine ⟨column, added, first.flatten ++ kept, last.flatten, hcolumn, hadded, ?_, ?_⟩
  · simp [hflatten]
  · simp

/-- **Adding an operator.**  Where a filter has a condition without and with the operator, its
predicates are the same ones in the same order, but for the equality that the column may have.  The
predicate of the operator is added, and takes the place of that equality if there is one. -/
theorem and_narrows (f : Filter) (name : String) (op : Operator) (value : Value)
    {condition? narrowed? : Option String} (h : f.whereSql? = .ok condition?)
    (hand : (f.and name op value).whereSql? = .ok narrowed?) :
    ∃ groups narrowed column added, f.Joins groups condition? ∧
      (f.and name op value).Joins narrowed narrowed? ∧
      Column.normalize name = .ok column ∧ op.predicate column.quotedSql value = .ok added ∧
      (∀ predicate ∈ groups.flatten, predicate ∉ equalityOf column (f.entries.find? name) →
        predicate ∈ narrowed.flatten) ∧
      ∃ before after,
        groups.flatten = before ++ equalityOf column (f.entries.find? name) ++ after ∧
        narrowed.flatten = before ++ added :: after := by
  obtain ⟨groups, hgroups⟩ := exists_joins.mp h
  obtain ⟨narrowed, hnarrowed⟩ := exists_joins.mp hand
  obtain ⟨column, added, before, after, hcolumn, hadded, hold, hnew⟩ :=
    flatten_and hgroups.predicates hnarrowed.predicates
  refine ⟨groups, narrowed, column, added, hgroups, hnarrowed, hcolumn, hadded, ?_, before, after,
    hold, hnew⟩
  intro predicate hmem hkept
  rw [hold, List.mem_append, List.mem_append] at hmem
  rw [hnew, List.mem_append]
  rcases hmem with (hbefore | hequality) | hafter
  · exact .inl hbefore
  · exact absurd hequality hkept
  · exact .inr (List.mem_cons_of_mem _ hafter)

/-- An operator for a column that has one, beside an equality of another column. -/
theorem and_narrows_of_range :
    let f := (empty.eq "lastName" (.text "Doe")).and "age" .gt (.int 1)
    let condition := some "(last_name = 'Doe') AND (`age` > 1)"
    let narrowed := some "(last_name = 'Doe') AND (`age` > 1 AND `age` <= 3)"
    f.whereSql? = .ok condition ∧ (f.and "age" .lte (.int 3)).whereSql? = .ok narrowed ∧
      ∃ groups groups', f.Joins groups condition ∧
        (f.and "age" .lte (.int 3)).Joins groups' narrowed ∧
        ∀ predicate ∈ groups.flatten, predicate ∈ groups'.flatten := by
  intro f condition narrowed
  have h : f.whereSql? = .ok condition := toOption_eq_some.mp (by decide +kernel)
  have hand : (f.and "age" .lte (.int 3)).whereSql? = .ok narrowed :=
    toOption_eq_some.mp (by decide +kernel)
  obtain ⟨groups, groups', column, _, hgroups, hgroups', -, -, hkept, -⟩ :=
    and_narrows f "age" .lte (.int 3) h hand
  exact ⟨h, hand, groups, groups', hgroups, hgroups', fun predicate hmem =>
    hkept predicate hmem List.not_mem_nil⟩

end Filter

/-! ## The equality that gives way -/

/-- `first` and `second` differ at most in that the column stands inside backticks in `second`. -/
def DiffersInQuoting (first second : String) : Prop :=
  first = second ∨ ∃ (column : Column) (test : String),
    first = column.sql ++ " " ++ test ∧ second = column.quotedSql ++ " " ++ test

/-- What two predicates that differ in quoting only end in is the same. -/
lemma DiffersInQuoting.getLast?_eq {first second : String} (h : DiffersInQuoting first second) :
    first.toList.getLast? = second.toList.getLast? := by
  rcases h with rfl | ⟨column, test, rfl, rfl⟩
  · rfl
  · simp [List.getLast?_append, List.getLast?_cons]

/-- An equality is not among the predicates any more once its column has got an operator, neither
with its column bare nor inside backticks. -/
theorem Filter.and_loses_equality :
    let f := Filter.empty.eq "age" (.int 5)
    f.whereSql? = .ok (some "(age = 5)") ∧
      (f.and "age" .gt (.int 1)).whereSql? = .ok (some "(`age` > 1)") ∧
      ∃ groups narrowed, f.Joins groups (some "(age = 5)") ∧
        (f.and "age" .gt (.int 1)).Joins narrowed (some "(`age` > 1)") ∧
        ∃ predicate ∈ groups.flatten, ∀ other ∈ narrowed.flatten,
          ¬DiffersInQuoting predicate.sql other.sql := by
  intro f
  have hgroups : f.Joins [[.compare "age" .eq "5"]] (some "(age = 5)") :=
    ⟨toOption_eq_some.mp (by decide +kernel), by decide⟩
  have hnarrowed : (f.and "age" .gt (.int 1)).Joins [[.compare "`age`" .gt "1"]]
      (some "(`age` > 1)") := ⟨toOption_eq_some.mp (by decide +kernel), by decide⟩
  refine ⟨exists_joins.mpr ⟨_, hgroups⟩, exists_joins.mpr ⟨_, hnarrowed⟩, _, _, hgroups, hnarrowed,
    _, List.mem_cons_self, fun other hother hdiffers => ?_⟩
  obtain rfl := List.mem_singleton.mp hother
  exact absurd hdiffers.getLast?_eq (by decide)

end SqlAccess
