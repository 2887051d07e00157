import SqlAccess.Proofs.Filter.Demands

/-!
# Where null checks stand

The two null checks are SQL wherever a filter compares with them, in any case: `is null` and
`is not null` stand for themselves and not for text.  That makes sense where they follow the column
and nowhere else.

* `IsPredicate` — the forms that predicates should have.  An operand is a literal or the current
  time, and a null check is a form of its own.
* **`Filter.nullChecks_misplaced_iff`** — in a filter without raw SQL every predicate has one of
  these forms but for the null checks that an operator other than `eq` compares with.  They are
  written as an operand, behind the operator or between the parentheses of a list (`col > is null`,
  `col IN (is null)`), which is no SQL.

Only `eq` looks for null checks before it writes an operand.  Plain equality and the lists of
membership tests do not need to: they write all texts as literals.
-/

namespace SqlAccess

/-! ## The forms of predicates -/

/-- What stands for a value: the literal of a scalar, or the current time in one of its spellings.
-/
inductive IsOperand : String → Prop where
  | literal {value : Value} (hvalue : value.isScalar = true) : IsOperand value.sql
  | now {word : String}
      (hword : Text.asciiLower word = "current_timestamp" ∨ Text.asciiLower word = "now()") :
      IsOperand word

/-- What stands behind a column. -/
inductive IsTest : String → Prop where
  | isNull : IsTest "IS NULL"
  | isNotNull : IsTest "IS NOT NULL"
  | check {word : String}
      (hword : Text.asciiLower word = "is null" ∨ Text.asciiLower word = "is not null") :
      IsTest word
  | compare {op : Operator} (hop : op.isComparison = true) {operand : String}
      (hoperand : IsOperand operand) : IsTest (op.token ++ " " ++ operand)
  | member {op : Operator} (hop : op.isMembership = true) {operands : List String}
      (hne : operands ≠ []) (hoperands : ∀ operand ∈ operands, IsOperand operand) :
      IsTest (op.token ++ " " ++ ("(" ++ ", ".intercalate operands ++ ")"))

/-- A predicate on a column: a test behind it, or a constant where nothing is left to test for. -/
inductive IsPredicate (column : String) : String → Prop where
  | test {test : String} (htest : IsTest test) : IsPredicate column (column ++ " " ++ test)
  | nothing : IsPredicate column "1=0"
  | everything : IsPredicate column "1=1"

/-- Whether a demand compares with a null check by an operator that does not look for it. -/
def Demand.misplacesNullCheck (d : Demand) : Bool :=
  d.op?.any (· != .eq) && d.operand.isNullCheck

/-! ## Null checks are no literals -/

lemma isNullCheck_iff {s : String} : isNullCheck s = true ↔
    Text.asciiLower s = "is null" ∨ Text.asciiLower s = "is not null" := by
  unfold isNullCheck isSqlWord sqlWords
  generalize Text.asciiLower s = word
  simp only [List.contains_eq_mem, List.mem_cons, List.not_mem_nil, or_false, decide_eq_true_eq,
    Bool.and_eq_true]
  constructor
  · rintro ⟨rfl | rfl | rfl | rfl, hlead⟩
    · exact absurd hlead (by decide)
    · exact absurd hlead (by decide)
    · exact .inl rfl
    · exact .inr rfl
  · rintro (rfl | rfl) <;> exact ⟨by simp, by decide⟩

/-- The words that are SQL but no null checks stand for the current time. -/
lemma isOperand_of_isSqlWord {s : String} (hword : isSqlWord s = true)
    (hcheck : isNullCheck s = false) : IsOperand s := by
  apply IsOperand.now
  rw [Bool.eq_false_iff, Ne, isNullCheck_iff, not_or] at hcheck
  simpa [isSqlWord, sqlWords, hcheck.1, hcheck.2] using hword

lemma map_toLower_of_isNullCheck {s : String} (h : isNullCheck s = true) :
    s.toList.map Char.toLower = "is null".toList ∨
      s.toList.map Char.toLower = "is not null".toList := by
  rwa [isNullCheck_iff, Text.asciiLower, ← String.toList_inj, ← String.toList_inj,
    String.toList_ofList] at h

/-- A null check begins with an `i` and holds an `s` and no comma. -/
lemma letters_of_isNullCheck {s : String} (h : isNullCheck s = true) :
    (s.toList.map Char.toLower).head? = some 'i' ∧ 's' ∈ s.toList.map Char.toLower ∧
      ',' ∉ s.toList.map Char.toLower := by
  rcases map_toLower_of_isNullCheck h with h | h <;> rw [h] <;> decide

/-- Whether a value is written as a number. -/
def Value.isNumeral : Value → Bool
  | .int _ => true
  | .uint _ => true
  | .float x => x.isFinite
  | _ => false

/-- What holds of all digits and of the signs in numbers holds of all characters of a number. -/
lemma forall_mem_numeral {p : Char → Prop} (hdigit : ∀ c, c.isDigit = true → p c)
    (hsigns : p '-' ∧ p '.') (hletters : p 'N' ∧ p 'a' ∧ p 'i' ∧ p 'n' ∧ p 'f') {value : Value}
    (hvalue : value.isNumeral = true) : ∀ c ∈ value.sql.toList, p c := by
  obtain ⟨hminus, hpoint⟩ := hsigns
  rw [Value.sql, String.toList_ofList]
  cases value with
  | int n => exact forall_mem_intText hdigit hminus _
  | uint n => exact forall_mem_intText hdigit hminus _
  | float x =>
      rw [Value.isNumeral] at hvalue
      rw [Value.literal, if_pos hvalue]
      exact forall_mem_floatText hdigit hpoint hminus hletters x
  | _ => cases hvalue

lemma toLower_ne_of_isDigit (c : Char) (h : c.isDigit = true) : c.toLower ≠ 's' := by
  have hascii := Text.ascii_of_le (of_decide_eq_true (Bool.and_eq_true_iff.mp h).2) (by decide)
  have hall := Text.ascii_forall (p := fun c => !c.isDigit || c.toLower != 's') (by decide) hascii
  simpa [h] using hall

/-- Numbers are written without an `s`, and all other scalars begin otherwise. -/
lemma isNullCheck_sql {value : Value} (hvalue : value.isScalar = true) :
    isNullCheck value.sql = false := by
  rw [Bool.eq_false_iff]
  intro hcheck
  obtain ⟨hhead, hmem, -⟩ := letters_of_isNullCheck hcheck
  cases hnumeral : value.isNumeral with
  | true =>
      obtain ⟨c, hc, hs⟩ := List.mem_map.mp hmem
      exact forall_mem_numeral toLower_ne_of_isDigit (by decide) (by decide) hnumeral c hc hs
  | false =>
      rw [Value.sql, String.toList_ofList] at hhead
      cases value with
      | bool b => cases b <;> simp [Value.literal] at hhead
      | float x =>
          rw [Value.isNumeral] at hnumeral
          simp [Value.literal, hnumeral] at hhead
      | text s => simp [Value.literal, textLiteral] at hhead
      | bytes b => simp [Value.literal, bytesLiteral] at hhead
      | int n => cases hnumeral
      | uint n => cases hnumeral
      | list items => cases hvalue
      | raw sql => cases hvalue
      | _ => simp [Value.literal] at hhead

/-- **No operand is a null check.** -/
lemma IsOperand.isNullCheck_eq_false {operand : String} (h : IsOperand operand) :
    isNullCheck operand = false := by
  cases h with
  | literal hvalue => exact isNullCheck_sql hvalue
  | now hword =>
      rw [Bool.eq_false_iff, Ne, isNullCheck_iff]
      rcases hword with hword | hword <;> rw [hword] <;> decide

/-! ## Tests are told by how they begin -/

/-- The first two characters of a text, in lower case. -/
def opening (text : String) : List Char :=
  (text.toList.take 2).map Char.toLower

lemma opening_append {text : String} (htext : 2 ≤ text.toList.length) (more : String) :
    opening (text ++ more) = opening text := by
  rw [opening, String.toList_append, List.take_append_of_le_length htext, opening]

/-- With the blank behind it every operator has an opening of its own, and none begins as the tests
for null do. -/
lemma opening_token : ∀ op ∈ Operator.all, op ≠ .raw → 2 ≤ (op.token ++ " ").toList.length ∧
    opening (op.token ++ " ") ≠ ['i', 's'] ∧
    ∀ op' ∈ Operator.all, opening (op.token ++ " ") = opening (op'.token ++ " ") → op = op' := by
  decide

lemma opening_of_isNullCheck {check : String} (h : isNullCheck check = true) :
    opening check = ['i', 's'] := by
  rw [opening, List.map_take]
  rcases map_toLower_of_isNullCheck h with h | h <;> rw [h] <;> rfl

section Token

variable {op : Operator} (hop : op ≠ .raw)

include hop

lemma opening_token_append (rest : String) :
    opening (op.token ++ " " ++ rest) = opening (op.token ++ " ") :=
  opening_append (opening_token op op.mem_all hop).1 rest

lemma opening_token_ne (rest : String) : opening (op.token ++ " " ++ rest) ≠ ['i', 's'] := by
  rw [opening_token_append hop]
  exact (opening_token op op.mem_all hop).2.1

/-- What is written with an operator tells the operator and what stands behind it. -/
lemma token_append_inj {op' : Operator} (hop' : op' ≠ .raw) {rest rest' : String}
    (h : op.token ++ " " ++ rest = op'.token ++ " " ++ rest') : op = op' ∧ rest = rest' := by
  have hopening := congrArg opening h
  rw [opening_token_append hop, opening_token_append hop'] at hopening
  obtain rfl := (opening_token op op.mem_all hop).2.2 op' op'.mem_all hopening
  exact ⟨rfl, (String.append_right_inj _).mp h⟩

end Token

lemma Operator.ne_raw_of_isComparison {op : Operator} (h : op.isComparison = true) :
    op ≠ .raw := by
  rintro rfl
  cases h

lemma Operator.ne_raw_of_isMembership {op : Operator} (h : op.isMembership = true) :
    op ≠ .raw := by
  rintro rfl
  cases h

/-- Behind an operator stands what belongs there. -/
lemma IsTest.of_token {op : Operator} (hop : op ≠ .raw) {rest : String}
    (h : IsTest (op.token ++ " " ++ rest)) :
    op.isComparison = true ∧ IsOperand rest ∨
      op.isMembership = true ∧ ∃ operands ≠ [], (∀ operand ∈ operands, IsOperand operand) ∧
        rest = "(" ++ ", ".intercalate operands ++ ")" := by
  generalize htext : op.token ++ " " ++ rest = test at h
  cases h with
  | isNull => exact absurd (congrArg opening htext) (opening_token_ne hop rest)
  | isNotNull => exact absurd (congrArg opening htext) (opening_token_ne hop rest)
  | check hword =>
      have hopening := opening_of_isNullCheck (isNullCheck_iff.mpr hword)
      exact absurd ((congrArg opening htext).trans hopening) (opening_token_ne hop rest)
  | compare hop' hoperand =>
      obtain ⟨rfl, rfl⟩ := token_append_inj hop (Operator.ne_raw_of_isComparison hop') htext
      exact .inl ⟨hop', hoperand⟩
  | member hop' hne hoperands =>
      obtain ⟨rfl, rfl⟩ := token_append_inj hop (Operator.ne_raw_of_isMembership hop') htext
      exact .inr ⟨hop', _, hne, hoperands, rfl⟩

lemma isTest_compare_iff {op : Operator} (hop : op.isComparison = true) {operand : String} :
    IsTest (op.token ++ " " ++ operand) ↔ IsOperand operand := by
  refine ⟨fun h => ?_, .compare hop⟩
  rcases h.of_token (Operator.ne_raw_of_isComparison hop) with ⟨-, hoperand⟩ | ⟨hmember, -⟩
  · exact hoperand
  · simp [Operator.isMembership_of_isComparison hop] at hmember

/-- What stands behind a column is no constant. -/
lemma append_ne_constant {column test constant : String} (h : ' ' ∉ constant.toList) :
    column ++ " " ++ test ≠ constant := by
  rintro rfl
  simp at h

lemma isPredicate_iff_isTest {column test : String} :
    IsPredicate column (column ++ " " ++ test) ↔ IsTest test := by
  refine ⟨fun h => ?_, .test⟩
  generalize htext : column ++ " " ++ test = sql at h
  cases h with
  | test h => rwa [(String.append_right_inj _).mp htext]
  | nothing => exact absurd htext (append_ne_constant (by decide))
  | everything => exact absurd htext (append_ne_constant (by decide))

/-! ## Operands and members -/

/-- **A scalar stands as an operand unless it is a null check.** -/
lemma isOperand_sqlOrWord_iff {value : Value} (hvalue : value.isScalar = true) :
    IsOperand value.sqlOrWord ↔ value.isNullCheck = false := by
  cases value with
  | text s =>
      rw [Value.sqlOrWord, Value.literalOrWord, Value.isNullCheck]
      split_ifs with hword
      · rw [String.ofList_toList]
        exact ⟨IsOperand.isNullCheck_eq_false, isOperand_of_isSqlWord hword⟩
      · refine iff_of_true ?_ ?_
        · exact (.literal rfl : IsOperand (Value.text s).sql)
        · simp [isNullCheck, hword]
  | list items => cases hvalue
  | raw sql => cases hvalue
  | _ => exact iff_of_true (.literal hvalue) rfl

lemma isScalar_of_isRaw {value : Value} (hlist : value.isList = false)
    (hraw : value.isRaw = false) : value.isScalar = true := by
  cases value <;> simp_all [Value.isList, Value.isRaw, Value.isScalar]

/-- A null check holds no comma, so it is no list of several operands. -/
lemma not_isTest_member {op : Operator} (hop : op.isMembership = true) {check : String}
    (hcheck : isNullCheck check = true) : ¬IsTest (op.token ++ " " ++ ("(" ++ check ++ ")")) := by
  intro h
  rcases h.of_token (Operator.ne_raw_of_isMembership hop) with
    ⟨hcompare, -⟩ | ⟨-, operands, hne, hoperands, htext⟩
  · simp [Operator.isMembership_of_isComparison hcompare] at hop
  · rw [String.append_left_inj, String.append_right_inj] at htext
    match operands, hne with
    | [operand], _ =>
        rw [String.intercalate_singleton] at htext
        have hoperand := (hoperands operand List.mem_cons_self).isNullCheck_eq_false
        rw [← htext, hcheck] at hoperand
        cases hoperand
    | first :: second :: others, _ =>
        have hcomma : ',' ∈ check.toList := by
          rw [htext]
          simp
        exact (letters_of_isNullCheck hcheck).2.2 (List.mem_map_of_mem hcomma)

/-! ## Demands -/

lemma isNullCheck_of_asksForNull {value : Value} (h : asksForNull value = true) :
    value.isNullCheck = false := by
  cases value with
  | text s =>
      rw [Value.isNullCheck, Bool.eq_false_iff]
      intro hcheck
      have hhead := (letters_of_isNullCheck hcheck).1
      rw [asksForNull, Text.equalsIgnoringCase, beq_iff_eq] at h
      rw [h] at hhead
      exact absurd hhead (by decide)
  | _ => rfl

/-- Nothing but an operator other than `eq` misplaces a null check. -/
lemma Demand.misplacesNullCheck_some {op : Operator} {value : Value}
    (h : op = .eq → value.isNullCheck = false) :
    (Demand.mk (some op) value).misplacesNullCheck = value.isNullCheck := by
  show (op != .eq && value.isNullCheck) = value.isNullCheck
  by_cases hop : op = .eq
  · rw [h hop, Bool.and_false]
  · simp [hop]

/-- A null check is written as it is. -/
lemma exists_of_isNullCheck {value : Value} (h : value.isNullCheck = true) :
    ∃ check, value = .text check ∧ isNullCheck check = true ∧ value.sqlOrWord = check := by
  cases value with
  | text check =>
      have hword : isSqlWord check = true := (Bool.and_eq_true_iff.mp h).1
      refine ⟨check, rfl, h, ?_⟩
      rw [Value.sqlOrWord, Value.literalOrWord, if_pos hword, String.ofList_toList]
  | _ => cases h

/-- So it is a member, and not nothing. -/
lemma membersSql?_of_isNullCheck {value : Value} (h : value.isNullCheck = true) :
    value.membersSql? = some ("(" ++ value.sqlOrWord ++ ")") := by
  obtain ⟨check, -, hcheck, hsql⟩ := exists_of_isNullCheck h
  rw [membersSql?_eq, hsql, if_neg]
  rintro rfl
  exact absurd hcheck (by decide)

lemma isTest_list {op : Operator} (hop : op.isMembership = true) {items : List Value}
    (hne : (Value.list items).sqlOrWord ≠ "") :
    IsTest (op.token ++ " " ++ ("(" ++ (Value.list items).sqlOrWord ++ ")")) := by
  rw [sqlOrWord_list] at hne ⊢
  refine .member hop (fun hnone => hne (by rw [hnone]; rfl)) fun operand hoperand => ?_
  obtain ⟨item, hitem, rfl⟩ := List.mem_map.mp hoperand
  exact .literal (List.mem_filter.mp hitem).2

/-- **A membership test has the right form unless its one member is a null check.** -/
lemma isTest_member_iff {op : Operator} (hop : op.isMembership = true) {value : Value}
    (hraw : value.isRaw = false) (hne : value.sqlOrWord ≠ "") :
    IsTest (op.token ++ " " ++ ("(" ++ value.sqlOrWord ++ ")")) ↔ value.isNullCheck = false := by
  cases hlist : value.isList with
  | true =>
      cases value with
      | list items => exact iff_of_true (isTest_list hop hne) rfl
      | _ => cases hlist
  | false =>
      have hoperand := isOperand_sqlOrWord_iff (isScalar_of_isRaw hlist hraw)
      constructor
      · intro h
        rw [Bool.eq_false_iff]
        intro hcheck
        obtain ⟨check, -, hcheck, hsql⟩ := exists_of_isNullCheck hcheck
        exact not_isTest_member hop hcheck (hsql ▸ h)
      · intro hcheck
        have hmember : IsTest
            (op.token ++ " " ++ ("(" ++ ", ".intercalate [value.sqlOrWord] ++ ")")) :=
          .member hop (by simp) (by simpa using hoperand.mpr hcheck)
        rwa [String.intercalate_singleton] at hmember

lemma Demand.misplacesNullCheck_member {d : Demand} {op : Operator}
    (hop : d.membership? = some op) : d.misplacesNullCheck = d.operand.isNullCheck := by
  obtain ⟨op?, value⟩ := d
  obtain ⟨hmember, rfl | ⟨rfl, hlist⟩⟩ := op?_eq_of_membership? hop
  · exact misplacesNullCheck_some fun heq => by simp [heq, Operator.isMembership] at hmember
  · cases value <;> first | rfl | cases hlist

/-- **A demand without raw SQL has one of the forms of predicates unless it misplaces a null
check.** -/
lemma Demand.Writes.isPredicate_iff {column sql : String} {d : Demand} (h : d.Writes column sql)
    (hfree : d.isRawFree = true) : IsPredicate column sql ↔ d.misplacesNullCheck = false := by
  have hraw := isRaw_of_isRawFree hfree
  cases h with
  | equalsNull => exact iff_of_true (.test .isNull) rfl
  | equals hnull hlist =>
      exact iff_of_true (.test (.compare rfl (.literal (isScalar_of_isRaw hlist hraw)))) rfl
  | isNull hnull =>
      have hcheck := isNullCheck_of_asksForNull hnull
      exact iff_of_true (.test .isNull) ((misplacesNullCheck_some fun _ => hcheck).trans hcheck)
  | isNotNull hnull =>
      have hcheck := isNullCheck_of_asksForNull hnull
      exact iff_of_true (.test .isNotNull) ((misplacesNullCheck_some fun _ => hcheck).trans hcheck)
  | nullCheck hcheck => exact iff_of_true (.test (.check (isNullCheck_iff.mp hcheck))) rfl
  | compare hop hlist hnull hcheck =>
      rw [isPredicate_iff_isTest, isTest_compare_iff hop, misplacesNullCheck_some hcheck]
      exact isOperand_sqlOrWord_iff (isScalar_of_isRaw hlist hraw)
  | member hop hmembers =>
      rw [membersSql?_eq] at hmembers
      split_ifs at hmembers with hne
      obtain rfl := Option.some.inj hmembers
      rw [isPredicate_iff_isTest, misplacesNullCheck_member hop]
      exact isTest_member_iff (op?_eq_of_membership? hop).1 hraw hne
  | noMember hop hmembers =>
      rw [misplacesNullCheck_member hop]
      refine iff_of_true ?_ (Bool.eq_false_iff.mpr fun hcheck => ?_)
      · split_ifs
        · exact .nothing
        · exact .everything
      · cases hmembers.symm.trans (membersSql?_of_isNullCheck hcheck)
  | verbatim value sql => simp [isRawFree] at hfree

/-- **A null check that is misplaced is written behind the operator as it is.** -/
lemma Demand.Writes.eq_of_misplacesNullCheck {column sql : String} {d : Demand}
    (h : d.Writes column sql) (hfree : d.isRawFree = true)
    (hmisplaced : d.misplacesNullCheck = true) :
    ∃ op check, d = ⟨some op, .text check⟩ ∧ op ≠ .eq ∧ isNullCheck check = true ∧
      sql = column ++ " " ++ op.token ++ " " ++
        if op.isMembership then "(" ++ check ++ ")" else check := by
  obtain ⟨op?, value⟩ := d
  obtain ⟨hother, hcheck⟩ := Bool.and_eq_true_iff.mp hmisplaced
  obtain ⟨op, rfl, hne⟩ := (Option.any_eq_true _ _).mp hother
  obtain ⟨check, rfl, hcheck, hsql⟩ := exists_of_isNullCheck hcheck
  have hne : op ≠ .eq := by simpa using hne
  refine ⟨op, check, rfl, hne, hcheck, ?_⟩
  cases h with
  | isNull => exact absurd rfl hne
  | nullCheck => exact absurd rfl hne
  | isNotNull hnull => exact absurd hcheck (by simpa using isNullCheck_of_asksForNull hnull)
  | compare hop =>
      have hmember := Operator.isMembership_of_isComparison hop
      simp only [hsql, hmember, Bool.false_eq_true, if_false, String.append_assoc]
  | member hop hmembers =>
      obtain ⟨hmember, hop | ⟨hop, -⟩⟩ := op?_eq_of_membership? hop
      · obtain rfl := Option.some.inj hop
        obtain rfl := Option.some.inj (hmembers.symm.trans (membersSql?_of_isNullCheck hcheck))
        simp only [hsql, hmember, if_true, String.append_assoc]
      · cases hop
  | noMember hop hmembers =>
      cases hmembers.symm.trans (membersSql?_of_isNullCheck hcheck)
  | verbatim => simp [isRawFree] at hfree

/-! ## Filters -/

/-- **Null checks stand directly behind their column but for those that an operator other than `eq`
compares with.**  Every other predicate of a filter without raw SQL is of one of the forms of
predicates; these are not, and are written as the operand of the operator. -/
theorem Filter.nullChecks_misplaced_iff {f : Filter} (hfree : ∀ d ∈ f.demands, d.isRawFree = true)
    {condition? : Option String} (h : f.whereSql? = .ok condition?) :
    f.IsWritten (fun column d sql =>
      (IsPredicate column sql ↔ d.misplacesNullCheck = false) ∧
        (d.misplacesNullCheck = true → ∃ op check, d = ⟨some op, .text check⟩ ∧ op ≠ .eq ∧
          isNullCheck check = true ∧ sql = column ++ " " ++ op.token ++ " " ++
            if op.isMembership then "(" ++ check ++ ")" else check)) condition? :=
  (Filter.isWritten h).imp fun d hd _ _ hwritten =>
    ⟨hwritten.isPredicate_iff (hfree d hd), hwritten.eq_of_misplacesNullCheck (hfree d hd)⟩

/-- One null check stands inside parentheses, the other one behind its column. -/
theorem Filter.nullChecks_misplaced_iff_of_members :
    let f := (Filter.empty.and "age" .notOneOf (.text "Is Null")).and
      "age" .eq (.text "IS NOT NULL")
    (∀ d ∈ f.demands, d.isRawFree = true) ∧
      f.whereSql? = .ok (some "(`age` NOT IN (Is Null) AND `age` IS NOT NULL)") ∧
      ¬IsPredicate "`age`" "`age` NOT IN (Is Null)" ∧ IsPredicate "`age`" "`age` IS NOT NULL" := by
  intro f
  have hfree : ∀ d ∈ f.demands, d.isRawFree = true := by decide
  have hsql : f.whereSql? = .ok (some "(`age` NOT IN (Is Null) AND `age` IS NOT NULL)") := rfl
  obtain ⟨groups, hgroups, -, hwritten⟩ := nullChecks_misplaced_iff hfree hsql
  obtain rfl := Except.ok.inj hgroups
  obtain ⟨⟨column, hcolumn, -, hgroup⟩, -⟩ := List.forall₂_cons.mp hwritten
  obtain rfl := Except.ok.inj hcolumn
  obtain ⟨⟨hlist, -⟩, hgroup⟩ := List.forall₂_cons.mp hgroup
  obtain ⟨⟨heq, -⟩, -⟩ := List.forall₂_cons.mp hgroup
  exact ⟨hfree, hsql, fun h => absurd (hlist.mp h) (by decide), heq.mpr (by decide)⟩

end SqlAccess
