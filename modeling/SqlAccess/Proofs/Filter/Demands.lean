import SqlAccess.Proofs.Filter

/-!
# What the demands of a filter are written as

A condition makes one demand on its column for each predicate: equality with a value, or an operator
with its operand.  Whether a filter has the right SQL is a question about one demand at a time, and
there are not many ways in which a demand is written.

* `Demand.Writes` — these ways, one by one, with what is known of the operand in each of them.
* `Filter.IsWritten` — the condition of a filter is its demands in order, and a relation holds
  between each of them and its predicate.
* **`Filter.isWritten`** — a filter that has a condition is written demand by demand, each in one of
  the ways of `Demand.Writes`.  What is to be shown of every predicate follows by going through them
  (`Filter.IsWritten.imp`).
-/

namespace SqlAccess

/-! ## Members -/

/-- Of a list the scalars are written. -/
lemma scalarLiterals_eq (items : List Value) :
    Value.scalarLiterals items = (items.filter Value.isScalar).map Value.literal := by
  induction items with
  | nil => rw [Value.scalarLiterals]; rfl
  | cons item items ih =>
      rw [Value.scalarLiterals, ih]
      split_ifs with hitem <;> simp [hitem]

lemma sqlOrWord_list (items : List Value) :
    (Value.list items).sqlOrWord =
      ", ".intercalate ((items.filter Value.isScalar).map Value.sql) := by
  refine String.toList_inj.mp ?_
  rw [Value.sqlOrWord, Value.literalOrWord, Value.literal, scalarLiterals_eq, joined,
    String.toList_ofList, String.toList_intercalate, List.map_map]
  · simp [Value.sql, Function.comp_def]
  · simp

lemma memberLiterals_eq (value : Value) : value.memberLiterals = value.literalOrWord := by
  cases value <;> rfl

/-- Between the parentheses stands what a value is written as where a word that is SQL stands for
itself; of a list only the scalars are. -/
lemma membersSql?_eq (value : Value) : value.membersSql? =
    if value.sqlOrWord = "" then none else some ("(" ++ value.sqlOrWord ++ ")") := by
  have hsql : String.ofList ('(' :: value.literalOrWord ++ [')']) =
      "(" ++ value.sqlOrWord ++ ")" := by
    refine String.toList_inj.mp ?_
    simp only [String.toList_append, Value.sqlOrWord, String.toList_ofList]
    rfl
  simp only [Value.membersSql?, memberLiterals_eq, hsql, List.isEmpty_iff]
  refine if_congr ?_ rfl rfl
  rw [← String.toList_inj, Value.sqlOrWord, String.toList_ofList]
  rfl

/-! ## Demands -/

/-- One demand on a column: equality with the operand, or what the operator says. -/
structure Demand where
  op? : Option Operator
  operand : Value

/-- The demands of a condition, in order. -/
def Condition.demands : Condition → List Demand
  | .equals value => [⟨none, value⟩]
  | .ops entries => entries.map fun (op, value) => ⟨some op, value⟩

/-- All demands of a filter. -/
def Filter.demands (f : Filter) : List Demand :=
  f.entries.flatMap fun (_, condition) => condition.demands

/-- Whether a value is a text that is one of the null checks. -/
def Value.isNullCheck : Value → Bool
  | .text s => SqlAccess.isNullCheck s
  | _ => false

/-- Whether an operator compares with one operand. -/
def Operator.isComparison (op : Operator) : Bool :=
  !op.isMembership && op != .raw

lemma Operator.isMembership_of_isComparison {op : Operator} (h : op.isComparison = true) :
    op.isMembership = false := by
  simpa using (Bool.and_eq_true_iff.mp h).1

namespace Demand

/-- The column of a demand, bare for equality and inside backticks for operators. -/
def columnSql (d : Demand) (column : Column) : String :=
  if d.op?.isNone then column.sql else column.quotedSql

/-- Whether neither the operator nor the operand is raw SQL. -/
def isRawFree (d : Demand) : Bool :=
  d.op? != some .raw && !d.operand.isRaw

lemma isRaw_of_isRawFree {d : Demand} (h : d.isRawFree = true) : d.operand.isRaw = false := by
  simpa using (Bool.and_eq_true_iff.mp h).2

/-- The membership test that a demand comes down to, if it does. -/
def membership? (d : Demand) : Option Operator :=
  match d.op? with
  | none => if d.operand.isList then some .oneOf else none
  | some op => if op.isMembership then some op else none

/-- It is that of the operator, or for a list the one that asks for equality with one of its
members. -/
lemma op?_eq_of_membership? {d : Demand} {op : Operator} (h : d.membership? = some op) :
    op.isMembership = true ∧ (d.op? = some op ∨ d.op? = none ∧ d.operand.isList = true) := by
  obtain ⟨op?, value⟩ := d
  cases op? with
  | none =>
      simp only [membership?] at h
      split_ifs at h with hlist
      obtain rfl := Option.some.inj h
      exact ⟨rfl, .inr ⟨rfl, hlist⟩⟩
  | some op' =>
      simp only [membership?] at h
      split_ifs at h with hop
      obtain rfl := Option.some.inj h
      exact ⟨hop, .inl rfl⟩

/-- `d.Writes column sql`: what a demand on a column is written as. -/
inductive Writes (column : String) : Demand → String → Prop where
  | equalsNull : Writes column ⟨none, .null⟩ (column ++ " " ++ "IS NULL")
  | equals {value : Value} (hnull : value.isNull = false) (hlist : value.isList = false) :
      Writes column ⟨none, value⟩ (column ++ " " ++ (Operator.eq.token ++ " " ++ value.sql))
  | isNull {value : Value} (hnull : asksForNull value = true) :
      Writes column ⟨some .eq, value⟩ (column ++ " " ++ "IS NULL")
  | isNotNull {value : Value} (hnull : asksForNull value = true) :
      Writes column ⟨some .ne, value⟩ (column ++ " " ++ "IS NOT NULL")
  | nullCheck {check : String} (hcheck : isNullCheck check = true) :
      Writes column ⟨some .eq, .text check⟩ (column ++ " " ++ check)
  /-- The two tests for equality come here only if nothing above applies. -/
  | compare {op : Operator} {value : Value} (hop : op.isComparison = true)
      (hlist : value.isList = false)
      (hnull : op = .eq ∨ op = .ne → asksForNull value = false)
      (hcheck : op = .eq → value.isNullCheck = false) :
      Writes column ⟨some op, value⟩ (column ++ " " ++ (op.token ++ " " ++ value.sqlOrWord))
  | member {d : Demand} {op : Operator} (hop : d.membership? = some op) {members : String}
      (hmembers : d.operand.membersSql? = some members) :
      Writes column d (column ++ " " ++ (op.token ++ " " ++ members))
  | noMember {d : Demand} {op : Operator} (hop : d.membership? = some op)
      (hmembers : d.operand.membersSql? = none) :
      Writes column d (if op = .oneOf then "1=0" else "1=1")
  /-- What the caller gives stands behind the column. -/
  | verbatim (value : Value) (sql : String) :
      Writes column ⟨some .raw, value⟩ (column ++ " " ++ sql)

end Demand

/-! ## The predicate of a demand -/

lemma writes_isNull (column : String) {d : Demand} (negated : Bool)
    (h : d.Writes column (column ++ " " ++ if negated then "IS NOT NULL" else "IS NULL")) :
    d.Writes column (Predicate.isNull column negated).sql := by
  rw [String.append_assoc] at h
  cases negated <;> exact h

lemma writes_membership (column : String) {d : Demand} (negated : Bool)
    (hop : d.membership? = some (if negated then .notOneOf else .oneOf)) :
    d.Writes column (membership column negated d.operand).sql := by
  unfold membership
  split
  · rename_i members hmembers
    have hmember : Demand.Writes column d _ := .member hop hmembers
    simp only [← String.append_assoc] at hmember
    cases negated <;> exact hmember
  · rename_i hmembers
    have hnone : Demand.Writes column d _ := .noMember hop hmembers
    cases negated <;> exact hnone

lemma writes_equality (column : String) (value : Value) :
    Demand.Writes column ⟨none, value⟩ (equality column value).sql := by
  unfold equality
  split
  · exact writes_isNull column false .equalsNull
  · exact writes_membership column false rfl
  · rename_i hnull hlist
    have hequals : Demand.Writes column ⟨none, value⟩ _ :=
      .equals (by cases value <;> simp_all [Value.isNull])
        (by cases value <;> simp_all [Value.isList])
    simpa only [Predicate.sql, String.append_assoc] using hequals

lemma writes_comparison (column : String) {op : Operator} (hop : op.isComparison = true)
    {value : Value} (hlist : value.isList = false)
    (hnull : op = .eq ∨ op = .ne → asksForNull value = false)
    (hcheck : op = .eq → value.isNullCheck = false) :
    Demand.Writes column ⟨some op, value⟩ (comparison column op value).sql := by
  have hcompare : Demand.Writes column ⟨some op, value⟩ _ := .compare hop hlist hnull hcheck
  simpa only [comparison, Predicate.sql, String.append_assoc] using hcompare

lemma Operator.writes_of_predicate {column : String} {op : Operator} {value : Value}
    {predicate : Predicate} (h : op.predicate column value = .ok predicate) :
    Demand.Writes column ⟨some op, value⟩ predicate.sql := by
  unfold Operator.predicate at h
  split at h
  · cases h
  · rename_i hlist
    obtain rfl := Except.ok.inj h
    rw [Bool.and_eq_true, not_and_or] at hlist
    have hscalar (hop : op.isMembership = false) : value.isList = false := by
      simpa [hop] using hlist
    cases op with
    | oneOf => exact writes_membership column false rfl
    | notOneOf => exact writes_membership column true rfl
    | raw =>
        cases value <;> exact .verbatim _ _
    | eq =>
        show Demand.Writes column _ (Predicate.sql (if _ then _ else _))
        split
        · rename_i hnull
          exact writes_isNull column false (.isNull hnull)
        · rename_i hnull
          have hequality (hcheck : value.isNullCheck = false) :
              Demand.Writes column ⟨some .eq, value⟩ (comparison column .eq value).sql :=
            writes_comparison column rfl (hscalar rfl) (fun _ => by simpa using hnull)
              fun _ => hcheck
          cases value with
          | text s =>
              show Demand.Writes column _ (Predicate.sql (if _ then _ else _))
              split
              · rename_i hcheck
                exact .nullCheck hcheck
              · rename_i hcheck
                exact hequality (Bool.eq_false_iff.mpr hcheck)
          | _ => exact hequality rfl
    | ne =>
        show Demand.Writes column _ (Predicate.sql (if _ then _ else _))
        split
        · rename_i hnull
          exact writes_isNull column true (.isNotNull hnull)
        · rename_i hnull
          exact writes_comparison column rfl (hscalar rfl) (fun _ => by simpa using hnull) nofun
    | _ => exact writes_comparison column rfl (hscalar rfl) (by simp) nofun

/-- The predicate of a demand on a column of its own. -/
def Demand.predicate (d : Demand) (column : Column) : Except ConditionError Predicate :=
  match d.op? with
  | none => .ok (equality (d.columnSql column) d.operand)
  | some op => op.predicate (d.columnSql column) d.operand

/-- **A predicate is its demand, written in one of the ways.** -/
theorem Demand.writes_of_predicate {d : Demand} {column : Column} {predicate : Predicate}
    (h : d.predicate column = .ok predicate) : d.Writes (d.columnSql column) predicate.sql := by
  obtain ⟨op?, value⟩ := d
  cases op? with
  | none =>
      obtain rfl := Except.ok.inj h
      exact writes_equality _ value
  | some op => exact op.writes_of_predicate h

/-- The predicates of a condition with operators are those of its operators. -/
lemma operatorPredicates_eq_ok_iff {column : String} {ops : List (Operator × Value)}
    {predicates : List Predicate} :
    operatorPredicates column ops = .ok predicates ↔
      List.Forall₂ (fun op predicate => op.1.predicate column op.2 = .ok predicate)
        ops predicates :=
  members_eq_ok (fun op => op.1.predicate column op.2) (operatorPredicates column) rfl
    fun ⟨_, _⟩ _ => rfl

lemma operatorPredicates_eq_ok {column : Column} {ops : List (Operator × Value)}
    {predicates : List Predicate} (h : operatorPredicates column.quotedSql ops = .ok predicates) :
    List.Forall₂ (fun d predicate => d.predicate column = .ok predicate)
      (Condition.ops ops).demands predicates :=
  List.forall₂_map_left_iff.mpr (operatorPredicates_eq_ok_iff.mp h)

/-- A condition has one predicate for each demand, and at least one. -/
lemma Condition.predicates_eq_ok {column : Column} {condition : Condition}
    {predicates : List Predicate} (h : condition.predicates column = .ok predicates) :
    predicates ≠ [] ∧
      List.Forall₂ (fun d predicate => d.predicate column = .ok predicate)
        condition.demands predicates := by
  cases condition with
  | equals value =>
      obtain rfl := Except.ok.inj h
      exact ⟨by simp, .cons rfl .nil⟩
  | ops entries =>
      cases entries with
      | nil => cases h
      | cons op others =>
          have hpredicates := operatorPredicates_eq_ok h
          refine ⟨?_, hpredicates⟩
          rintro rfl
          cases hpredicates

/-! ## Filters -/

/-- `f.IsWritten rel condition?`: the filter has the condition, and `rel` holds of the column of
each demand as SQL writes it, of the demand, and of the predicate that the condition has for it. -/
def Filter.IsWritten (rel : String → Demand → String → Prop) (f : Filter)
    (condition? : Option String) : Prop :=
  ∃ groups, f.predicates = .ok groups ∧
    (condition? = if groups.isEmpty then none else some (conjunction (groups.map groupSql))) ∧
    List.Forall₂ (fun (name, condition) group => ∃ column, Column.normalize name = .ok column ∧
      group ≠ [] ∧
      List.Forall₂ (fun d predicate => rel (d.columnSql column) d predicate.sql)
        condition.demands group)
      f.entries groups

lemma Filter.entryPredicates_eq_ok {name : String} {condition : Condition}
    {predicates : List Predicate} :
    entryPredicates name condition = .ok predicates ↔
      ∃ column, Column.normalize name = .ok column ∧
        condition.predicates column = .ok predicates := by
  rw [entryPredicates, bind_eq_ok]
  simp only [mapError_eq_ok]

/-- The predicates of a filter are those of its entries. -/
lemma Filter.predicatesOf_eq_ok_iff {entries : Entries Condition}
    {groups : List (List Predicate)} :
    predicatesOf entries = .ok groups ↔
      List.Forall₂ (fun entry group => entryPredicates entry.1 entry.2 = .ok group)
        entries groups :=
  members_eq_ok (fun entry => entryPredicates entry.1 entry.2) predicatesOf rfl
    fun ⟨_, _⟩ _ => by rw [predicatesOf]

lemma Filter.predicatesOf_eq_ok {entries : Entries Condition} {groups : List (List Predicate)}
    (h : predicatesOf entries = .ok groups) :
    List.Forall₂ (fun (name, condition) group => ∃ column, Column.normalize name = .ok column ∧
      group ≠ [] ∧
      List.Forall₂ (fun d predicate => d.predicate column = .ok predicate) condition.demands group)
      entries groups := by
  refine (predicatesOf_eq_ok_iff.mp h).imp fun entry group hgroup => ?_
  obtain ⟨column, hcolumn, hpredicates⟩ := entryPredicates_eq_ok.mp hgroup
  exact ⟨column, hcolumn, Condition.predicates_eq_ok hpredicates⟩

/-- **A filter that has a condition is written demand by demand.** -/
theorem Filter.isWritten {f : Filter} {condition? : Option String}
    (h : f.whereSql? = .ok condition?) : f.IsWritten Demand.Writes condition? := by
  obtain ⟨groups, hgroups, h⟩ := bind_eq_ok.mp h
  refine ⟨groups, hgroups, (Except.ok.inj h).symm, (predicatesOf_eq_ok hgroups).imp ?_⟩
  rintro ⟨name, condition⟩ group ⟨column, hcolumn, hne, hpredicates⟩
  exact ⟨column, hcolumn, hne, hpredicates.imp fun d predicate h => d.writes_of_predicate h⟩

/-- What is known of the demands of a filter may be used for each of them. -/
lemma Filter.IsWritten.imp {rel rel' : String → Demand → String → Prop} {f : Filter}
    {condition? : Option String} (h : f.IsWritten rel condition?)
    (hrel : ∀ d ∈ f.demands, ∀ column sql, rel column d sql → rel' column d sql) :
    f.IsWritten rel' condition? := by
  obtain ⟨groups, hgroups, hcondition, hwritten⟩ := h
  have hentries : ∀ entry ∈ f.entries, ∀ d ∈ entry.2.demands, d ∈ f.demands :=
    fun entry hentry d hd => List.mem_flatMap.mpr ⟨entry, hentry, hd⟩
  refine ⟨groups, hgroups, hcondition, ?_⟩
  refine ((List.forall₂_and_left _ _).mpr ⟨hentries, hwritten⟩).imp ?_
  rintro ⟨name, condition⟩ group ⟨hdemands, column, hcolumn, hne, hgroup⟩
  refine ⟨column, hcolumn, hne, ((List.forall₂_and_left _ _).mpr ⟨hdemands, hgroup⟩).imp ?_⟩
  rintro d predicate ⟨hd, hrelated⟩
  exact hrel d hd _ _ hrelated

end SqlAccess
