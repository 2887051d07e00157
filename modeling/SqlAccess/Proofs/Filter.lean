import SqlAccess.Filter
import SqlAccess.Proofs.Column

/-!
# Conditions are sealed

A filter without raw SQL has a sealed condition: every predicate is a column, a calm operator and
sealed operands with blanks between them, and what joins predicates is calm too.

**Without raw SQL** means that no operator is the raw one, no value outside a list is raw, and no
column reaches into a JSON document.  These are the three places where a caller's own SQL is written
as it is.
-/

namespace SqlAccess

open Sql

/-! ## Filters without raw SQL -/

/-- Whether a condition holds no raw SQL, neither as an operator nor as a value outside a list. -/
def Condition.isRawFree : Condition → Bool
  | .equals value => !value.isRaw
  | .ops entries => entries.all fun (op, value) => op != .raw && !value.isRaw

/-- Whether a filter holds no raw SQL and names no place inside a JSON document. -/
def Filter.isRawFree (f : Filter) : Bool :=
  f.entries.all fun (name, condition) => !holdsArrow name && condition.isRawFree

/-! ## Predicates -/

lemma calm_token (op : Operator) : Calm op.token.toList := by
  cases op <;> decide

/-- A column with calm words behind it is sealed. -/
lemma sealed_column_word {column word : String} (hcolumn : Sealed column.toList)
    (hword : Calm word.toList) : Sealed (column ++ " " ++ word).toList := by
  simp only [String.toList_append, List.append_assoc]
  exact hcolumn.append (.calm_append (by decide) (.ofCalm hword)) rfl

/-- A column, an operator and a sealed operand make a sealed predicate. -/
lemma sealed_column_operand {column operand : String} (hcolumn : Sealed column.toList)
    (op : Operator) (hoperand : Sealed operand.toList) :
    Sealed (column ++ " " ++ op.token ++ " " ++ operand).toList := by
  simp only [String.toList_append, List.append_assoc]
  refine hcolumn.append (.calm_append (by decide) ?_) rfl
  exact .calm_append (calm_token op) (.calm_append (by decide) hoperand)

lemma sealed_membership {column : String} (hcolumn : Sealed column.toList) (negated : Bool)
    {value : Value} (hvalue : value.isRaw = false) :
    Sealed (membership column negated value).sql.toList := by
  unfold membership
  split
  · rename_i members hmembers
    have hsealed := sealed_membersSql hvalue hmembers
    cases negated
    · exact sealed_column_operand hcolumn .oneOf hsealed
    · exact sealed_column_operand hcolumn .notOneOf hsealed
  · cases negated <;> exact .ofCalm (by simp only [Predicate.sql]; decide)

lemma sealed_isNull {column : String} (hcolumn : Sealed column.toList) (negated : Bool) :
    Sealed (Predicate.isNull column negated).sql.toList := by
  cases negated
  · exact String.toList_append ▸ hcolumn.append (.ofCalm (by decide)) rfl
  · exact String.toList_append ▸ hcolumn.append (.ofCalm (by decide)) rfl

lemma sealed_comparison {column : String} (hcolumn : Sealed column.toList) (op : Operator)
    {value : Value} (hvalue : value.isRaw = false) :
    Sealed (comparison column op value).sql.toList := by
  refine sealed_column_operand hcolumn op ?_
  rw [Value.sqlOrWord, String.toList_ofList]
  exact sealed_literalOrWord hvalue

lemma sealed_equality {column : String} (hcolumn : Sealed column.toList) {value : Value}
    (hvalue : value.isRaw = false) : Sealed (equality column value).sql.toList := by
  unfold equality
  split
  · exact sealed_isNull hcolumn false
  · exact sealed_membership hcolumn false hvalue
  · refine sealed_column_operand hcolumn .eq ?_
    rw [Value.sql, String.toList_ofList]
    exact sealed_literal hvalue

/-- An operator other than the raw one makes a sealed predicate. -/
lemma sealed_predicate {column : String} (hcolumn : Sealed column.toList) {op : Operator}
    (hop : op ≠ .raw) {value : Value} (hvalue : value.isRaw = false) {predicate : Predicate}
    (h : op.predicate column value = .ok predicate) : Sealed predicate.sql.toList := by
  unfold Operator.predicate at h
  split at h
  · simp at h
  · obtain rfl := Except.ok.inj h
    cases op with
    | oneOf => exact sealed_membership hcolumn false hvalue
    | notOneOf => exact sealed_membership hcolumn true hvalue
    | raw => exact absurd rfl hop
    | eq =>
        show Sealed (Predicate.sql (if _ then _ else _)).toList
        split
        · exact sealed_isNull hcolumn false
        · split
          · rename_i s
            split
            · rename_i hcheck
              simp only [isNullCheck, Bool.and_eq_true] at hcheck
              exact sealed_column_word hcolumn (calm_of_isSqlWord hcheck.1)
            · exact sealed_comparison hcolumn .eq hvalue
          · exact sealed_comparison hcolumn .eq hvalue
    | ne =>
        show Sealed (Predicate.sql (if _ then _ else _)).toList
        split
        · exact sealed_isNull hcolumn true
        · exact sealed_comparison hcolumn .ne hvalue
    | _ => exact sealed_comparison hcolumn _ hvalue

/-! ## Conditions and filters -/

lemma sealed_operatorPredicates {column : String} (hcolumn : Sealed column.toList)
    {ops : List (Operator × Value)} (hops : (Condition.ops ops).isRawFree = true)
    {predicates : List Predicate} (h : operatorPredicates column ops = .ok predicates) :
    ∀ predicate ∈ predicates, Sealed predicate.sql.toList := by
  induction ops generalizing predicates with
  | nil =>
      obtain rfl := Except.ok.inj h
      simp
  | cons entry ops ih =>
      obtain ⟨op, value⟩ := entry
      simp only [Condition.isRawFree, List.all_cons, Bool.and_eq_true, bne_iff_ne,
        Bool.not_eq_true'] at hops
      obtain ⟨first, hfirst, h⟩ := bind_eq_ok.mp h
      obtain ⟨others, hothers, h⟩ := bind_eq_ok.mp h
      obtain rfl := Except.ok.inj h
      exact List.forall_mem_cons.mpr
        ⟨sealed_predicate hcolumn hops.1.1 hops.1.2 hfirst, ih hops.2 hothers⟩

lemma sealed_entryPredicates {name : String} (hname : holdsArrow name = false)
    {condition : Condition} (hcondition : condition.isRawFree = true)
    {predicates : List Predicate} (h : Filter.entryPredicates name condition = .ok predicates) :
    ∀ predicate ∈ predicates, Sealed predicate.sql.toList := by
  obtain ⟨column, hcolumn, h⟩ := bind_eq_ok.mp h
  obtain ⟨hbare, hquoted⟩ := Column.sealed_of_normalize (mapError_eq_ok.mp hcolumn) hname
  have hpredicates := mapError_eq_ok.mp h
  cases condition with
  | equals value =>
      obtain rfl := Except.ok.inj hpredicates
      have hvalue : value.isRaw = false := by simpa [Condition.isRawFree] using hcondition
      simpa using sealed_equality hbare hvalue
  | ops entries =>
      cases entries with
      | nil => simp [Condition.predicates] at hpredicates
      | cons op others => exact sealed_operatorPredicates hquoted hcondition hpredicates

lemma sealed_groupSql {predicates : List Predicate}
    (h : ∀ predicate ∈ predicates, Sealed predicate.sql.toList) :
    Sealed (Filter.groupSql predicates).toList := by
  have hinner : Sealed (conjunction (predicates.map Predicate.sql)).toList := by
    rw [conjunction, String.toList_intercalate, List.map_map]
    refine .intercalate (by simp) (by decide) fun text htext => ?_
    obtain ⟨predicate, hpredicate, rfl⟩ := List.mem_map.mp htext
    exact h predicate hpredicate
  simp only [Filter.groupSql, String.toList_append, List.append_assoc]
  exact .calm_append (by decide) (hinner.append (.ofCalm (by decide)) rfl)

lemma sealed_predicatesOf {entries : Entries Condition}
    (hentries : (Filter.mk entries).isRawFree = true) {groups : List (List Predicate)}
    (h : Filter.predicatesOf entries = .ok groups) :
    ∀ group ∈ groups, Sealed (Filter.groupSql group).toList := by
  induction entries generalizing groups with
  | nil =>
      obtain rfl := Except.ok.inj h
      simp
  | cons entry entries ih =>
      obtain ⟨name, condition⟩ := entry
      simp only [Filter.isRawFree, List.all_cons, Bool.and_eq_true, Bool.not_eq_true'] at hentries
      obtain ⟨first, hfirst, h⟩ := bind_eq_ok.mp h
      obtain ⟨others, hothers, h⟩ := bind_eq_ok.mp h
      obtain rfl := Except.ok.inj h
      have hgroup := sealed_groupSql (sealed_entryPredicates hentries.1.1 hentries.1.2 hfirst)
      exact List.forall_mem_cons.mpr ⟨hgroup, ih hentries.2 hothers⟩

/-- **The condition of a filter without raw SQL is sealed.** -/
theorem Filter.sealed_whereSql {f : Filter} (hfree : f.isRawFree = true) {condition : String}
    (h : f.whereSql? = .ok (some condition)) : Sealed condition.toList := by
  obtain ⟨groups, hgroups, h⟩ := bind_eq_ok.mp h
  have h := Except.ok.inj h
  split_ifs at h
  obtain rfl := Option.some.inj h
  rw [conjunction, String.toList_intercalate, List.map_map]
  refine .intercalate (by simp) (by decide) fun text htext => ?_
  obtain ⟨group, hgroup, rfl⟩ := List.mem_map.mp htext
  exact sealed_predicatesOf hfree hgroups group hgroup

end SqlAccess
