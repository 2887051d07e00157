import SqlAccess.Proofs.Filter.NullChecks
import SqlAccess.Statement.Change

/-!
# Which rows a changing statement is about

Updates and deletes refuse the filter that every row passes, so that a forgotten filter does no
harm.  That alone does not make their condition depend on the rows: where nothing is left to test
for membership in, a constant is written, and `NOT IN` becomes `1=1`.

What is left is less than what the caller put into a list.  Of a list the scalars are written, and
lists and raw SQL inside it are dropped, so a list may have members and still leave nothing
(`Statement.delete_everyRow`).

* `Value.isVoid` — the values that leave nothing: lists without a scalar, and raw SQL without text.
* `Statement.update_eq_ok`, `Statement.delete_eq_ok` — these statements exist exactly for the
  filters that have a condition, and have it behind `WHERE`.
* **`Statement.condition_namesColumn`** — a predicate names its column unless it is a membership
  test in such a value.  So a filter without such tests gives updates and deletes a condition of
  which all predicates name their column.
-/

namespace SqlAccess

/-! ## Values that leave nothing -/

/-- Whether nothing is written of a value between the parentheses of a membership test. -/
def Value.isVoid : Value → Bool
  | .list items => !items.any Value.isScalar
  | .raw sql => sql == ""
  | _ => false

lemma floatText_ne_nil (x : Float) : (floatText x).toList ≠ [] := by
  unfold floatText binaryText
  generalize BinaryFormat.double.decode x.toBits.toNat = magnitude
  have hne := magnitudeText_ne_nil .double magnitude
  have hsigned : (if BinaryFormat.double.isNegative x.toBits.toNat then
      '-' :: magnitudeText .double plainStyle magnitude
      else magnitudeText .double plainStyle magnitude) ≠ [] := by
    split_ifs
    · exact List.cons_ne_nil _ _
    · exact hne
  cases magnitude with
  | nan => rwa [String.toList_ofList]
  | infinite => rwa [String.toList_ofList]
  | finite m q => rwa [String.toList_ofList]

lemma literal_ne_nil {value : Value} (h : value.isScalar = true) : value.literal ≠ [] := by
  cases value with
  | bool b => cases b <;> simp [Value.literal]
  | int n =>
      rw [Value.literal, Text.intText]
      split_ifs <;> simp [Nat.toDigits_ne_nil]
  | uint n =>
      rw [Value.literal, Text.intText]
      split_ifs <;> simp [Nat.toDigits_ne_nil]
  | float x =>
      rw [Value.literal]
      split_ifs
      · exact floatText_ne_nil x
      · simp
  | list items => cases h
  | raw sql => cases h
  | _ => simp [Value.literal, textLiteral, bytesLiteral]

lemma literalOrWord_ne_nil {value : Value} (h : value.isScalar = true) :
    value.literalOrWord ≠ [] := by
  cases value with
  | text s =>
      rw [Value.literalOrWord]
      split_ifs with hword
      · intro hnil
        obtain rfl := String.toList_eq_nil_iff.mp hnil
        exact absurd hword (by decide)
      · exact List.cons_ne_nil _ _
  | _ => exact literal_ne_nil h

lemma literal_list_eq_nil_iff {items : List Value} :
    (Value.list items).literal = [] ↔ (Value.list items).isVoid = true := by
  rw [Value.literal, scalarLiterals_eq, Value.isVoid, Bool.not_eq_true', List.any_eq_false]
  constructor
  · intro h item hitem hscalar
    obtain ⟨first, others, hscalars⟩ := List.exists_cons_of_ne_nil
      (List.ne_nil_of_mem (List.mem_filter.mpr ⟨hitem, hscalar⟩))
    have hfirst : first.isScalar = true := by
      have hmem : first ∈ items.filter Value.isScalar := hscalars ▸ List.mem_cons_self
      exact (List.mem_filter.mp hmem).2
    rw [hscalars, List.map_cons] at h
    refine literal_ne_nil hfirst ?_
    cases others <;> simp_all [joined, List.intercalate]
  · intro h
    rw [List.filter_eq_nil_iff.mpr h]
    rfl

/-- Nothing is written of a list without scalars and of raw SQL without text, and of no other value.
-/
lemma membersSql?_eq_none_iff {value : Value} :
    value.membersSql? = none ↔ value.isVoid = true := by
  have hnone : value.membersSql? = none ↔ value.literalOrWord = [] := by
    simp [Value.membersSql?, memberLiterals_eq]
  rw [hnone]
  cases value with
  | list items => exact literal_list_eq_nil_iff
  | raw sql => simp [Value.literalOrWord, Value.literal, Value.isVoid]
  | _ => exact iff_of_false (literalOrWord_ne_nil rfl) Bool.false_ne_true

/-! ## Demands -/

namespace Demand

/-- Whether a demand is a membership test that nothing is left of. -/
def isVacuous (d : Demand) : Bool :=
  d.membership?.isSome && d.operand.isVoid

end Demand

/-- A predicate that begins with its column. -/
def NamesColumn (column sql : String) : Prop :=
  ∃ test, sql = column ++ " " ++ test

/-- **A demand names its column unless it is vacuous, and is a constant if it is.** -/
lemma Demand.Writes.namesColumn_iff {column sql : String} {d : Demand} (h : d.Writes column sql) :
    NamesColumn column sql ↔ d.isVacuous = false := by
  cases h with
  | equalsNull => exact iff_of_true ⟨_, rfl⟩ rfl
  | equals hnull hlist =>
      refine iff_of_true ⟨_, rfl⟩ ?_
      simp [isVacuous, membership?, hlist]
  | isNull => exact iff_of_true ⟨_, rfl⟩ rfl
  | isNotNull => exact iff_of_true ⟨_, rfl⟩ rfl
  | nullCheck => exact iff_of_true ⟨_, rfl⟩ rfl
  | @compare op value hop =>
      refine iff_of_true ⟨_, rfl⟩ ?_
      simp [isVacuous, membership?, Operator.isMembership_of_isComparison hop]
  | member hop hmembers =>
      refine iff_of_true ⟨_, rfl⟩ ?_
      have hvoid : ¬d.operand.isVoid = true := fun hvoid => by
        cases hmembers.symm.trans (membersSql?_eq_none_iff.mpr hvoid)
      simp [isVacuous, hvoid]
  | noMember hop hmembers =>
      have hvoid := membersSql?_eq_none_iff.mp hmembers
      refine iff_of_false ?_ (by simp [isVacuous, hop, hvoid])
      rintro ⟨test, htest⟩
      exact append_ne_constant (by split_ifs <;> decide) htest.symm
  | verbatim => exact iff_of_true ⟨_, rfl⟩ rfl

/-- Nothing is a member of nothing. -/
lemma Demand.Writes.eq_of_isVacuous {column sql : String} {d : Demand} (h : d.Writes column sql)
    (hvacuous : d.isVacuous = true) :
    sql = if d.membership? = some .oneOf then "1=0" else "1=1" := by
  have hunnamed : ¬NamesColumn column sql := by simp [h.namesColumn_iff, hvacuous]
  cases h with
  | noMember hop => simp [hop]
  | _ => exact absurd ⟨_, rfl⟩ hunnamed

/-! ## Statements -/

namespace Statement

variable {table : Ident} {source : FilterSource} {sql : String}

/-- The filter that has no condition is the one that every row passes. -/
lemma whereSql?_eq_none_iff {f : Filter} : f.whereSql? = .ok none ↔ f.isEmpty = true := by
  constructor
  · intro h
    obtain ⟨groups, hgroups, h⟩ := bind_eq_ok.mp h
    have hempty : groups = [] := by simpa using Except.ok.inj h
    have hlength := (Filter.predicatesOf_eq_ok hgroups).length_eq
    rw [hempty] at hlength
    exact List.isEmpty_iff.mpr (List.eq_nil_of_length_eq_zero hlength)
  · intro h
    obtain ⟨entries⟩ := f
    obtain rfl : entries = [] := List.isEmpty_iff.mp h
    rfl

lemma requiredWhere_eq_ok {verb : String} {f : Filter} {clause : String} :
    requiredWhere table verb f = .ok clause ↔
      ∃ condition, f.whereSql? = .ok (some condition) ∧ clause = " WHERE " ++ condition := by
  unfold requiredWhere whereClause
  split_ifs with hempty
  · simp [whereSql?_eq_none_iff.mpr hempty]
  · rw [bind_eq_ok]
    constructor
    · rintro ⟨condition?, hcondition, h⟩
      rw [mapError_eq_ok] at hcondition
      cases condition? with
      | none => exact absurd (whereSql?_eq_none_iff.mp hcondition) hempty
      | some condition => exact ⟨condition, hcondition, (Except.ok.inj h).symm⟩
    · rintro ⟨condition, hcondition, rfl⟩
      exact ⟨some condition, mapError_eq_ok.mpr hcondition, rfl⟩

lemma delete_eq_ok : delete table source = .ok sql ↔
    ∃ f condition, source.toFilter = .ok f ∧ f.whereSql? = .ok (some condition) ∧
      sql = "DELETE FROM " ++ table.sql ++ " WHERE " ++ condition := by
  constructor
  · intro h
    obtain ⟨f, hf, h⟩ := bind_eq_ok.mp h
    obtain ⟨clause, hclause, h⟩ := bind_eq_ok.mp h
    obtain ⟨condition, hcondition, rfl⟩ := requiredWhere_eq_ok.mp hclause
    refine ⟨f, condition, mapError_eq_ok.mp hf, hcondition, ?_⟩
    rw [← Except.ok.inj h]
    simp only [String.append_assoc]
  · rintro ⟨f, condition, hf, hcondition, rfl⟩
    refine bind_eq_ok.mpr ⟨f, mapError_eq_ok.mpr hf, ?_⟩
    refine bind_eq_ok.mpr ⟨_, requiredWhere_eq_ok.mpr ⟨condition, hcondition, rfl⟩, ?_⟩
    simp only [String.append_assoc]

lemma update_eq_ok {args : RecordSource} : update table source args = .ok sql ↔
    ∃ f r assignments condition, source.toFilter = .ok f ∧ args.toRecord = .ok r ∧
      r.isEmpty = false ∧ assignmentsOf r.entries = .ok assignments ∧
      f.whereSql? = .ok (some condition) ∧
      sql = "UPDATE " ++ table.sql ++ " SET " ++ ", ".intercalate assignments ++ " WHERE " ++
        condition := by
  constructor
  · intro h
    obtain ⟨f, hf, h⟩ := bind_eq_ok.mp h
    obtain ⟨r, hr, h⟩ := bind_eq_ok.mp h
    split_ifs at h with hempty
    obtain ⟨assignments, hassignments, h⟩ := bind_eq_ok.mp h
    obtain ⟨clause, hclause, h⟩ := bind_eq_ok.mp h
    obtain ⟨condition, hcondition, rfl⟩ := requiredWhere_eq_ok.mp hclause
    refine ⟨f, r, assignments, condition, mapError_eq_ok.mp hf, mapError_eq_ok.mp hr,
      Bool.eq_false_iff.mpr hempty, hassignments, hcondition, ?_⟩
    rw [← Except.ok.inj h]
    simp only [String.append_assoc]
  · rintro ⟨f, r, assignments, condition, hf, hr, hempty, hassignments, hcondition, rfl⟩
    refine bind_eq_ok.mpr ⟨f, mapError_eq_ok.mpr hf, ?_⟩
    refine bind_eq_ok.mpr ⟨r, mapError_eq_ok.mpr hr, ?_⟩
    rw [if_neg (Bool.eq_false_iff.mp hempty)]
    refine bind_eq_ok.mpr ⟨assignments, hassignments, ?_⟩
    refine bind_eq_ok.mpr ⟨_, requiredWhere_eq_ok.mpr ⟨condition, hcondition, rfl⟩, ?_⟩
    simp only [String.append_assoc]

/-- **The predicates of a filter name their columns but for the membership tests that nothing is
left of**, which are constants.  So updates and deletes whose filter has no such test are about the
rows that pass predicates on their columns. -/
theorem condition_namesColumn (f : Filter) :
    (∀ condition?, f.whereSql? = .ok condition? → f.IsWritten (fun column d sql =>
      (NamesColumn column sql ↔ d.isVacuous = false) ∧
        (d.isVacuous = true → sql = if d.membership? = some .oneOf then "1=0" else "1=1"))
      condition?) ∧
    ((∀ d ∈ f.demands, d.isVacuous = false) →
      ∀ (source : FilterSource), source.toFilter = .ok f → ∀ (table : Ident) (sql : String),
        (delete table source = .ok sql → ∃ condition,
          sql = "DELETE FROM " ++ table.sql ++ " WHERE " ++ condition ∧
          f.IsWritten (fun column _ sql => NamesColumn column sql) (some condition)) ∧
        (∀ args, update table source args = .ok sql → ∃ r assignments condition,
          args.toRecord = .ok r ∧ assignmentsOf r.entries = .ok assignments ∧
          sql = "UPDATE " ++ table.sql ++ " SET " ++ ", ".intercalate assignments ++ " WHERE " ++
            condition ∧
          f.IsWritten (fun column _ sql => NamesColumn column sql) (some condition))) := by
  refine ⟨fun condition? h => (Filter.isWritten h).imp fun d _ _ _ hwritten =>
    ⟨hwritten.namesColumn_iff, hwritten.eq_of_isVacuous⟩, ?_⟩
  intro hnone source hsource table sql
  have hnames {condition : String} (h : f.whereSql? = .ok (some condition)) :
      f.IsWritten (fun column _ sql => NamesColumn column sql) (some condition) :=
    (Filter.isWritten h).imp fun d hd _ _ hwritten => hwritten.namesColumn_iff.mpr (hnone d hd)
  refine ⟨fun h => ?_, fun args h => ?_⟩
  · obtain ⟨g, condition, hg, hcondition, rfl⟩ := delete_eq_ok.mp h
    obtain rfl := Except.ok.inj (hsource.symm.trans hg)
    exact ⟨condition, rfl, hnames hcondition⟩
  · obtain ⟨g, r, assignments, condition, hg, hr, -, hassignments, hcondition, rfl⟩ :=
      update_eq_ok.mp h
    obtain rfl := Except.ok.inj (hsource.symm.trans hg)
    exact ⟨r, assignments, condition, hr, hassignments, rfl, hnames hcondition⟩

/-- A list that holds one scalar among raw SQL, and raw SQL in place of a list. -/
theorem condition_namesColumn_of_lists :
    let f := (Filter.empty.eq "kind" (.list [.raw "2", .uint 3])).and "id" .notOneOf (.raw "1, 2")
    let sql := "DELETE FROM t WHERE (kind IN (3)) AND (`id` NOT IN (1, 2))"
    (∀ d ∈ f.demands, d.isVacuous = false) ∧ delete ⟨[.bare "t"]⟩ f = .ok sql ∧
      ∃ condition, sql = "DELETE FROM t WHERE " ++ condition ∧
        f.IsWritten (fun column _ sql => NamesColumn column sql) (some condition) := by
  intro f sql
  have hnone : ∀ d ∈ f.demands, d.isVacuous = false := by decide
  have hsql : delete ⟨[.bare "t"]⟩ f = .ok sql := toOption_eq_some.mp (by decide +kernel)
  exact ⟨hnone, hsql, ((condition_namesColumn f).2 hnone f rfl _ sql).1 hsql⟩

end Statement

/-! ## Lists that are not empty and leave nothing -/

mutual

/-- Whether neither a list nor raw SQL in a value is empty. -/
def Value.isFilled : Value → Bool
  | .list items => !items.isEmpty && Value.areFilled items
  | .raw sql => sql != ""
  | _ => true

/-- Whether neither a list nor raw SQL in several values is empty. -/
def Value.areFilled : List Value → Bool
  | [] => true
  | item :: items => item.isFilled && Value.areFilled items

end

/-- A list that holds but raw SQL is not empty, and a delete with it is one of every row. -/
theorem Statement.delete_everyRow :
    let f := Filter.empty.notOneOf "id" [.raw "1"]
    (∀ d ∈ f.demands, d.operand.isFilled = true) ∧
      Statement.delete ⟨[.bare "t"]⟩ f = .ok "DELETE FROM t WHERE (1=1)" ∧
      ¬f.IsWritten (fun column _ sql => NamesColumn column sql) (some "(1=1)") := by
  intro f
  refine ⟨by decide, toOption_eq_some.mp (by decide +kernel), ?_⟩
  rintro ⟨groups, hgroups, -, hwritten⟩
  obtain rfl := Except.ok.inj hgroups
  obtain ⟨⟨column, -, -, hgroup⟩, -⟩ := List.forall₂_cons.mp hwritten
  obtain ⟨⟨test, htest⟩, -⟩ := List.forall₂_cons.mp hgroup
  exact append_ne_constant (by decide) htest.symm

end SqlAccess
