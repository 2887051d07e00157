import SqlAccess.Proofs.Filter.NullChecks

/-!
# Comparisons with null

In SQL nothing equals null and nothing differs from it, so `col = NULL` and `col != NULL` hold of no
row.  A filter that asks for null is written with `IS`, but whether it asks for null is read off the
value: null itself, and for operators the word `null`.  Floats that are not finite are another kind
of value, and they too are written as `NULL`.

* `Value.sql_eq_null_iff` — null and the floats that are not finite are the scalars that are written
  as `NULL`.
* **`Filter.comparesWithNull_iff_notFinite`** — the comparisons with null in a filter without raw
  SQL are its tests for equality with a float that is not finite.  Of the scalars that are written
  as `NULL` it is null alone that is tested by `IS`.
-/

namespace SqlAccess

/-! ## What is written as null -/

/-- Whether a value is a float that is infinite or no number. -/
def Value.isNotFinite : Value → Bool
  | .float x => !x.isFinite
  | _ => false

/-- Text is written in quotes, bytes begin with an `X`, and numbers hold no letter of `NULL` but
perhaps the first. -/
lemma Value.sql_eq_null_iff {value : Value} (hvalue : value.isScalar = true) :
    value.sql = "NULL" ↔ value.isNull = true ∨ value.isNotFinite = true := by
  cases hnumeral : value.isNumeral with
  | true =>
      have hletter : ∀ c ∈ value.sql.toList, c ≠ 'L' :=
        forall_mem_numeral (by rintro _ h rfl; exact absurd h (by decide)) (by decide) (by decide)
          hnumeral
      refine iff_of_false (fun h => hletter 'L' (by rw [h]; decide) rfl) ?_
      cases value <;> simp_all [isNumeral, isNull, isNotFinite]
  | false =>
      rw [← String.toList_inj, Value.sql, String.toList_ofList]
      cases value with
      | bool b => cases b <;> simp [literal, isNull, isNotFinite]
      | float x =>
          rw [isNumeral] at hnumeral
          simp [literal, isNotFinite, hnumeral]
      | int n => cases hnumeral
      | uint n => cases hnumeral
      | list items => cases hvalue
      | raw sql => cases hvalue
      | _ => simp [literal, textLiteral, bytesLiteral, isNull, isNotFinite]

/-- No word that is SQL is written as null, so words make no difference. -/
lemma Value.sqlOrWord_eq_null_iff {value : Value} (hvalue : value.isScalar = true) :
    value.sqlOrWord = "NULL" ↔ value.isNull = true ∨ value.isNotFinite = true := by
  rw [← sql_eq_null_iff hvalue]
  cases value with
  | text s =>
      rw [sqlOrWord, literalOrWord]
      split_ifs with hword
      · rw [String.ofList_toList]
        refine iff_of_false ?_ (by simp [sql_eq_null_iff hvalue, isNull, isNotFinite])
        rintro rfl
        exact absurd hword (by decide)
      · rfl
  | _ => rfl

/-! ## Predicates -/

/-- A comparison with null by an operator, which no row passes. -/
def ComparesWithNull (column sql : String) : Prop :=
  sql = column ++ " " ++ "= NULL" ∨ sql = column ++ " " ++ "!= NULL"

/-- A test for null as SQL has it. -/
def TestsNull (column sql : String) : Prop :=
  sql = column ++ " " ++ "IS NULL" ∨ sql = column ++ " " ++ "IS NOT NULL"

/-- Only the two operators for equality compare with null, and only with what is written so. -/
lemma comparesWithNull_token_iff {column rest : String} {op : Operator} (hop : op ≠ .raw) :
    ComparesWithNull column (column ++ " " ++ (op.token ++ " " ++ rest)) ↔
      (op = .eq ∨ op = .ne) ∧ rest = "NULL" := by
  rw [ComparesWithNull, String.append_right_inj, String.append_right_inj]
  constructor
  · rintro (h | h)
    · have htoken : op.token ++ " " ++ rest = Operator.eq.token ++ " " ++ "NULL" := h
      obtain ⟨rfl, rfl⟩ := token_append_inj hop (by decide) htoken
      exact ⟨.inl rfl, rfl⟩
    · have htoken : op.token ++ " " ++ rest = Operator.ne.token ++ " " ++ "NULL" := h
      obtain ⟨rfl, rfl⟩ := token_append_inj hop (by decide) htoken
      exact ⟨.inr rfl, rfl⟩
  · rintro ⟨rfl | rfl, rfl⟩
    · exact .inl rfl
    · exact .inr rfl

/-- What begins as the tests for null do is no comparison. -/
lemma not_comparesWithNull {column test : String} (h : opening test = ['i', 's']) :
    ¬ComparesWithNull column (column ++ " " ++ test) := by
  rw [ComparesWithNull, String.append_right_inj, String.append_right_inj]
  rintro (rfl | rfl) <;> exact absurd h (by decide)

lemma TestsNull.not_comparesWithNull {column sql : String} (h : TestsNull column sql) :
    ¬ComparesWithNull column sql := by
  rcases h with rfl | rfl <;> exact SqlAccess.not_comparesWithNull rfl

/-! ## Demands -/

namespace Demand

/-- Whether a demand asks for equality or for its opposite. -/
def isEquality (d : Demand) : Bool :=
  d.op?.all fun op => op == .eq || op == .ne

lemma isEquality_some {op : Operator} {value : Value} :
    (Demand.mk (some op) value).isEquality = true ↔ op = .eq ∨ op = .ne := by
  simp [isEquality]

/-- The membership tests among them are those for the members of a list. -/
lemma isList_of_membership? {d : Demand} {op : Operator} (hop : d.membership? = some op)
    (hequality : d.isEquality = true) : d.operand.isList = true := by
  obtain ⟨op?, value⟩ := d
  obtain ⟨hmember, rfl | ⟨-, hlist⟩⟩ := op?_eq_of_membership? hop
  · rcases isEquality_some.mp hequality with rfl | rfl <;> cases hmember
  · exact hlist

lemma not_isNotFinite_of_membership? {d : Demand} {op : Operator}
    (hop : d.membership? = some op) : ¬(d.isEquality = true ∧ d.operand.isNotFinite = true) := by
  rintro ⟨hequality, hvalue⟩
  have hlist := isList_of_membership? hop hequality
  obtain ⟨op?, value⟩ := d
  cases value <;> first | cases hvalue | cases hlist

lemma isNotFinite_of_asksForNull {value : Value} (h : asksForNull value = true) :
    value.isNotFinite = false := by
  cases value <;> simp_all [asksForNull, Value.isNotFinite]

/-- **A demand without raw SQL compares with null exactly if it asks for equality with a float that
is not finite.** -/
lemma Writes.comparesWithNull_iff {column sql : String} {d : Demand} (h : d.Writes column sql)
    (hfree : d.isRawFree = true) :
    ComparesWithNull column sql ↔ d.isEquality = true ∧ d.operand.isNotFinite = true := by
  have hraw := isRaw_of_isRawFree hfree
  cases h with
  | equalsNull => exact iff_of_false (not_comparesWithNull rfl) nofun
  | equals hnull hlist =>
      rw [comparesWithNull_token_iff (by decide),
        Value.sql_eq_null_iff (isScalar_of_isRaw hlist hraw), hnull]
      simp [isEquality]
  | isNull hnull =>
      exact iff_of_false (not_comparesWithNull rfl) (by simp [isNotFinite_of_asksForNull hnull])
  | isNotNull hnull =>
      exact iff_of_false (not_comparesWithNull rfl) (by simp [isNotFinite_of_asksForNull hnull])
  | nullCheck hcheck =>
      exact iff_of_false (not_comparesWithNull (opening_of_isNullCheck hcheck)) nofun
  | @compare op value hop hlist hnull hcheck =>
      rw [comparesWithNull_token_iff (Operator.ne_raw_of_isComparison hop), isEquality_some,
        Value.sqlOrWord_eq_null_iff (isScalar_of_isRaw hlist hraw)]
      -- Null itself is not compared with by the operators for equality.
      have hother (hop : op = .eq ∨ op = .ne) : value.isNull = false := by
        cases value <;> first | rfl | cases hnull hop
      constructor
      · rintro ⟨hop, hvalue⟩
        simpa [hop, hother hop] using hvalue
      · rintro ⟨hop, hvalue⟩
        exact ⟨hop, .inr hvalue⟩
  | member hop hmembers =>
      have hmember := (op?_eq_of_membership? hop).1
      rw [comparesWithNull_token_iff (Operator.ne_raw_of_isMembership hmember)]
      refine iff_of_false ?_ (not_isNotFinite_of_membership? hop)
      rintro ⟨rfl | rfl, -⟩ <;> cases hmember
  | noMember hop hmembers =>
      refine iff_of_false ?_ (not_isNotFinite_of_membership? hop)
      rintro (h | h) <;> exact append_ne_constant (by split_ifs <;> decide) h.symm
  | verbatim value sql => simp [isRawFree] at hfree

lemma not_isList_of_isNull {value : Value} (h : value.isNull = true) : ¬value.isList = true := by
  cases value <;> simp_all [Value.isNull, Value.isList]

lemma Writes.testsNull_of_isNull {column sql : String} {d : Demand} (h : d.Writes column sql)
    (hequality : d.isEquality = true) (hnull : d.operand.isNull = true) :
    TestsNull column sql := by
  cases h with
  | equalsNull => exact .inl rfl
  | equals hother => simp [hnull] at hother
  | isNull => exact .inl rfl
  | isNotNull => exact .inr rfl
  | nullCheck => cases hnull
  | @compare op value hop hlist hother =>
      have hnone := hother (isEquality_some.mp hequality)
      cases value <;> first | exact absurd hnone (by decide) | cases hnull
  | member hop => exact absurd (isList_of_membership? hop hequality) (not_isList_of_isNull hnull)
  | noMember hop => exact absurd (isList_of_membership? hop hequality) (not_isList_of_isNull hnull)
  | verbatim => cases hequality

/-- Of the scalars that are written as null, null alone is tested by `IS`. -/
lemma Writes.testsNull_iff {column sql : String} {d : Demand} (h : d.Writes column sql)
    (hfree : d.isRawFree = true) (hequality : d.isEquality = true)
    (hscalar : d.operand.isScalar = true) (hnull : d.operand.sql = "NULL") :
    TestsNull column sql ↔ d.operand.isNull = true := by
  refine ⟨fun htests => ?_, h.testsNull_of_isNull hequality⟩
  rcases (Value.sql_eq_null_iff hscalar).mp hnull with hvalue | hvalue
  · exact hvalue
  · exact absurd ((h.comparesWithNull_iff hfree).mpr ⟨hequality, hvalue⟩)
      htests.not_comparesWithNull

end Demand

/-! ## Filters -/

/-- **A filter without raw SQL compares with null exactly where it asks for equality with a float
that is not finite, or for its opposite.**  Of the scalars that are written as null and that it asks
for, null is tested by `IS` and these floats are not. -/
theorem Filter.comparesWithNull_iff_notFinite {f : Filter}
    (hfree : ∀ d ∈ f.demands, d.isRawFree = true) {condition? : Option String}
    (h : f.whereSql? = .ok condition?) :
    f.IsWritten (fun column d sql =>
      (ComparesWithNull column sql ↔ d.isEquality = true ∧ d.operand.isNotFinite = true) ∧
        (d.isEquality = true → d.operand.isScalar = true → d.operand.sql = "NULL" →
          (TestsNull column sql ↔ d.operand.isNull = true))) condition? :=
  (Filter.isWritten h).imp fun d hd _ _ hwritten =>
    ⟨hwritten.comparesWithNull_iff (hfree d hd), hwritten.testsNull_iff (hfree d hd)⟩

/-- No number is compared with, and null is tested for. -/
theorem Filter.comparesWithNull_iff_notFinite_of_nan :
    let f := ((Filter.empty.eq "score" (.float (0 / 0))).and "rank" .ne (.float (1 / 0))).and
      "rank" .eq .null
    (∀ d ∈ f.demands, d.isRawFree = true) ∧
      f.whereSql? = .ok (some "(score = NULL) AND (`rank` != NULL AND `rank` IS NULL)") ∧
      ComparesWithNull "score" "score = NULL" ∧ ComparesWithNull "`rank`" "`rank` != NULL" ∧
      TestsNull "`rank`" "`rank` IS NULL" := by
  intro f
  have hfree : ∀ d ∈ f.demands, d.isRawFree = true := by decide
  have hsql : f.whereSql? = .ok (some "(score = NULL) AND (`rank` != NULL AND `rank` IS NULL)") :=
    toOption_eq_some.mp (by decide +kernel)
  have hpredicates : f.predicates = .ok [[.compare "score" .eq "NULL"],
      [.compare "`rank`" .ne "NULL", .isNull "`rank`" false]] :=
    toOption_eq_some.mp (by decide +kernel)
  obtain ⟨groups, hgroups, -, hwritten⟩ := comparesWithNull_iff_notFinite hfree hsql
  obtain rfl := Except.ok.inj (hgroups.symm.trans hpredicates)
  obtain ⟨⟨column, hcolumn, -, hscore⟩, hwritten⟩ := List.forall₂_cons.mp hwritten
  obtain rfl := Except.ok.inj hcolumn
  obtain ⟨⟨hscore, -⟩, -⟩ := List.forall₂_cons.mp hscore
  obtain ⟨⟨column, hcolumn, -, hrank⟩, -⟩ := List.forall₂_cons.mp hwritten
  obtain rfl := Except.ok.inj hcolumn
  obtain ⟨⟨hrank, -⟩, hnull⟩ := List.forall₂_cons.mp hrank
  obtain ⟨⟨-, hnull⟩, -⟩ := List.forall₂_cons.mp hnull
  exact ⟨hfree, hsql, hscore.mpr (by decide +kernel), hrank.mpr (by decide +kernel),
    (hnull rfl rfl rfl).mpr rfl⟩

end SqlAccess
