import SqlAccess.Proofs.Sql.Groups
import SqlAccess.Proofs.Sql.LeadingComments
import SqlAccess.Proofs.Text.Search
import SqlAccess.Proofs.Text.SnakeCase

/-!
# Statements behind named queries

A statement may begin with a list of named queries, and is of the kind of what stands behind them.
**The list never hides that statement** (`classify_withClause`), whatever the names and bodies hold:
quotation marks, parentheses in quotes and in comments, further groups in groups.

The list is told here by its form, as a relation between a text and what is left behind its head.

* `Word` — a keyword in any case; `QueryName` — a name, bare or quoted.  A bare word ends where no
  character of a name follows, so two of them have a gap between them.
* `NamedQuery`, `NamedQueries` — one query and several with commas between them.
* `WithClause` — the whole list, behind `WITH` or `WITH RECURSIVE`.

**The one thing that is not as it is written** is a first name like `recursive$x`: the keyword is
looked for with letters, digits and underscores as the characters of words, while names may hold
more.  The keyword is taken off such a name, and what is left is a name still
(`NamedQueries.of_append`).
-/

namespace SqlAccess.Sql

/-! ## Words and names -/

/-- Whether a bare word may end in front of a text. -/
def EndsWord (rest : List Char) : Prop :=
  rest.head?.any isNameChar = false

/-- A keyword in any case. -/
inductive Word (keyword : String) : List Char → List Char → Prop where
  | intro {word rest : List Char}
      (hword : word.map Char.toLower = keyword.toList.map Char.toLower) (hrest : EndsWord rest) :
      Word keyword (word ++ rest) rest

/-- The name of a named query. -/
inductive QueryName : List Char → List Char → Prop where
  | bare {name rest : List Char} (hne : name ≠ []) (hname : ∀ c ∈ name, isNameChar c = true)
      (hrest : EndsWord rest) : QueryName (name ++ rest) rest
  | quoted {text rest : List Char} (h : Begins IsQuoted text rest) : QueryName text rest

/-! ## Named queries -/

/-- The names of the columns, which may be left out. -/
inductive ColumnList : List Char → List Char → Prop where
  | none (rest : List Char) : ColumnList rest rest
  | listed {text more rest : List Char} (hcolumns : Parenthesised text more)
      (hgap : Gap more rest) : ColumnList text rest

/-- A named query: its name, perhaps the names of its columns, the word `AS`, and its body. -/
inductive NamedQuery : List Char → List Char → Prop where
  | intro {text afterName beforeColumns beforeAs afterAs body rest : List Char}
      (hname : QueryName text afterName) (hgap : Gap afterName beforeColumns)
      (hcolumns : ColumnList beforeColumns beforeAs) (has : Word "AS" beforeAs afterAs)
      (hgap' : Gap afterAs body) (hbody : Parenthesised body rest) : NamedQuery text rest

/-- Named queries with commas between them. -/
inductive NamedQueries : List Char → List Char → Prop where
  | last {text afterQuery rest : List Char} (hquery : NamedQuery text afterQuery)
      (hgap : Gap afterQuery rest) : NamedQueries text rest
  | more {text afterQuery afterComma next rest : List Char} (hquery : NamedQuery text afterQuery)
      (hgap : Gap afterQuery (',' :: afterComma)) (hgap' : Gap afterComma next)
      (hothers : NamedQueries next rest) : NamedQueries text rest

/-- What stands in front of a statement with named queries.  Without the keyword `RECURSIVE`, it is
no name of the first of them. -/
inductive WithClause : List Char → List Char → Prop where
  | plain {text afterWith queries rest : List Char} (hwith : Word "WITH" text afterWith)
      (hgap : Gap afterWith queries) (hname : ∀ more, ¬Word "RECURSIVE" queries more)
      (hqueries : NamedQueries queries rest) : WithClause text rest
  | recursive {text afterWith keyword afterKeyword queries rest : List Char}
      (hwith : Word "WITH" text afterWith) (hgap : Gap afterWith keyword)
      (hkeyword : Word "RECURSIVE" keyword afterKeyword) (hgap' : Gap afterKeyword queries)
      (hqueries : NamedQueries queries rest) : WithClause text rest

/-! ## Keywords are found -/

/-- What stands behind a keyword is left where its letters are found. -/
lemma dropWord?_of_afterKeyword? {keyword text rest : List Char}
    (h : afterKeyword? keyword text = some rest) : Text.dropWord? keyword text = some rest := by
  unfold afterKeyword? at h
  split at h
  · cases h
  · simp_all
  · split_ifs at h
    simp_all

lemma afterKeyword?_of_endsWord {keyword text rest : List Char}
    (h : Text.dropWord? keyword text = some rest) (hrest : EndsWord rest) :
    afterKeyword? keyword text = some rest := by
  rw [afterKeyword?, h]
  cases rest with
  | nil => rfl
  | cons c rest =>
      have hc : isNameChar c = false := hrest
      simp only [isNameChar, Bool.or_eq_false_iff] at hc
      simp [hc.1.1]

/-- **A keyword is found as it is written.** -/
lemma Word.afterKeyword? {keyword : String} {text rest : List Char} (h : Word keyword text rest) :
    afterKeyword? keyword.toList text = some rest := by
  obtain ⟨hword, hrest⟩ := h
  exact afterKeyword?_of_endsWord (Text.dropWord?_eq_some.mpr ⟨_, rfl, hword⟩) hrest

/-- A text that begins with a keyword begins with a letter if the keyword does, and with the same.
-/
lemma exists_isAlpha_of_afterKeyword? {keyword text rest : List Char}
    (hletter : (keyword.head?.map Char.toLower).any Char.isAlpha = true)
    (h : afterKeyword? keyword text = some rest) :
    ∃ c more, text = c :: more ∧ keyword.head?.map Char.toLower = some c.toLower ∧
      c.isAlpha = true := by
  obtain ⟨written, rfl, hlower⟩ := Text.dropWord?_eq_some.mp (dropWord?_of_afterKeyword? h)
  have hhead := congrArg List.head? hlower
  rw [List.head?_map, List.head?_map] at hhead
  rw [← hhead] at hletter ⊢
  cases written with
  | nil => cases hletter
  | cons c written => exact ⟨c, written ++ rest, rfl, rfl, Text.isAlpha_of_toLower hletter⟩

lemma Word.exists_isAlpha {keyword : String} {text rest : List Char} (h : Word keyword text rest)
    (hletter : (keyword.toList.head?.map Char.toLower).any Char.isAlpha = true) :
    ∃ c more, text = c :: more ∧ c.isAlpha = true := by
  obtain ⟨c, more, htext, -, hc⟩ := exists_isAlpha_of_afterKeyword? hletter h.afterKeyword?
  exact ⟨c, more, htext, hc⟩

lemma Word.length_le {keyword : String} {text rest : List Char} (h : Word keyword text rest) :
    rest.length ≤ text.length := by
  obtain ⟨-, -⟩ := h
  rw [List.length_append]
  exact Nat.le_add_left _ _

/-! ## Names are skipped -/

lemma isCalm_of_isNameChar {c : Char} (h : isNameChar c = true) : isCalm c = true :=
  isCalm_of_all (by decide) h

lemma isNameChar_of_isAlpha {c : Char} (h : c.isAlpha = true) : isNameChar c = true := by
  simp [isNameChar, Char.isAlphanum, h]

/-- **A name is skipped as a whole.** -/
lemma QueryName.afterName? {text rest : List Char} (h : QueryName text rest) :
    afterName? text = some rest := by
  cases h with
  | @bare name rest hne hname hrest =>
      obtain ⟨c, name, rfl⟩ := List.exists_cons_of_ne_nil hne
      have hquote := (isCalm_iff.mp (isCalm_of_isNameChar (hname c List.mem_cons_self))).1
      have hquoted : afterQuote? (c :: name ++ rest) = none := by simp [afterQuote?, hquote]
      have hdrop : (c :: name ++ rest).dropWhile isNameChar = rest := by
        rw [List.dropWhile_append_of_pos hname]
        cases rest with
        | nil => rfl
        | cons d rest =>
            have hd : isNameChar d = false := hrest
            exact List.dropWhile_cons_of_neg (by simp [hd])
      have hlength : rest.length ≠ (c :: name ++ rest).length := by
        rw [List.length_append, List.length_cons]
        omega
      simp only [Sql.afterName?, hquoted, hdrop, if_neg hlength]
  | quoted h => rw [Sql.afterName?, begins_isQuoted_iff.mp h]

lemma dropSilence_of_isNameChar {c : Char} (h : isNameChar c = true) (text : List Char) :
    dropSilence (c :: text) = c :: text :=
  dropSilence_eq_self (afterComment?_calm (isCalm_of_isNameChar h) text)
    (isAsciiBlank_of_all (by decide) h)

/-- A name is not silent. -/
lemma QueryName.dropSilence {text rest : List Char} (h : QueryName text rest) :
    dropSilence text = text := by
  cases h with
  | @bare name rest hne hname =>
      obtain ⟨c, name, rfl⟩ := List.exists_cons_of_ne_nil hne
      exact dropSilence_of_isNameChar (hname c List.mem_cons_self) _
  | quoted h =>
      obtain ⟨quote, more, rfl, hquote⟩ := h.exists_isQuote
      exact dropSilence_eq_self (afterComment?_of_isQuote hquote more)
        (isAsciiBlank_of_all (by decide) hquote)

lemma QueryName.length_le {text rest : List Char} (h : QueryName text rest) :
    rest.length ≤ text.length := by
  cases h with
  | bare =>
      rw [List.length_append]
      exact Nat.le_add_left _ _
  | quoted h => exact h.length_le

/-! ## Named queries are skipped -/

lemma ColumnList.length_le {text rest : List Char} (h : ColumnList text rest) :
    rest.length ≤ text.length := by
  cases h with
  | none => exact le_rfl
  | listed hcolumns hgap => exact hgap.length_le.trans hcolumns.length_lt.le

lemma NamedQuery.length_lt {text rest : List Char} (h : NamedQuery text rest) :
    rest.length < text.length := by
  obtain ⟨hname, hgap, hcolumns, has, hgap', hbody⟩ := h
  calc rest.length
      < _ := hbody.length_lt
    _ ≤ _ := hgap'.length_le
    _ ≤ _ := has.length_le
    _ ≤ _ := hcolumns.length_le
    _ ≤ _ := hgap.length_le
    _ ≤ text.length := hname.length_le

/-- In front of `AS` there may be a list of columns, and nothing else is taken for one. -/
lemma ColumnList.getD_afterParens? {text beforeAs afterAs : List Char}
    (h : ColumnList text beforeAs) (has : Word "AS" beforeAs afterAs) :
    (afterParens? (dropSilence text)).getD (dropSilence text) = beforeAs := by
  obtain ⟨c, more, rfl, hc⟩ := has.exists_isAlpha (by decide)
  have hname := isNameChar_of_isAlpha hc
  have hself := dropSilence_of_isNameChar hname more
  cases h with
  | none =>
      have hopen : c ≠ '(' := by
        rintro rfl
        exact absurd hname (by decide)
      rw [hself, afterParens?.eq_2 _ fun _ hsame => hopen (List.cons.inj hsame).1]
      rfl
  | listed hcolumns hgap =>
      rw [hcolumns.dropSilence, hcolumns.afterParens?, Option.getD_some, hgap.dropSilence, hself]

/-- **A named query is skipped as a whole**, and the silence behind it too. -/
theorem NamedQuery.afterNamedQuery? {text rest : List Char} (h : NamedQuery text rest) :
    afterNamedQuery? text = some (dropSilence rest) := by
  obtain ⟨hname, hgap, hcolumns, has, hgap', hbody⟩ := h
  have hkeyword : afterKeyword? ['A', 'S'] _ = some _ := has.afterKeyword?
  simp only [Sql.afterNamedQuery?, hname.dropSilence, hname.afterName?, Option.bind_eq_bind,
    Option.bind_some, hgap.dropSilence, hcolumns.getD_afterParens? has, hkeyword,
    hgap'.dropSilence, hbody.dropSilence, hbody.afterParens?]

/-- Where named queries are looked for, a gap in front of them does not matter. -/
lemma Gap.afterNamedQueries? {text rest : List Char} (h : Gap text rest) (fuel : Nat) :
    afterNamedQueries? fuel text = afterNamedQueries? fuel rest := by
  cases fuel with
  | zero => rfl
  | succ fuel =>
      simp only [Sql.afterNamedQueries?, afterNamedQuery?, h.dropSilence]

/-- **Named queries are skipped** up to the statement behind them, which begins with a letter. -/
theorem NamedQueries.afterNamedQueries? {text rest : List Char} (h : NamedQueries text rest)
    {c : Char} (hhead : rest.head? = some c) (hc : c.isAlpha = true) {fuel : Nat}
    (hfuel : text.length < fuel) : afterNamedQueries? fuel text = some rest := by
  induction h generalizing fuel with
  | @last text afterQuery rest hquery hgap =>
      obtain ⟨fuel, rfl⟩ := Nat.exists_eq_succ_of_ne_zero (Nat.ne_zero_of_lt hfuel)
      obtain ⟨more, rfl⟩ := List.head?_eq_some_iff.mp hhead
      have hcomma : c ≠ ',' := by
        rintro rfl
        exact absurd hc (by decide)
      have hself := dropSilence_of_isNameChar (isNameChar_of_isAlpha hc) more
      rw [Sql.afterNamedQueries?, hquery.afterNamedQuery?, hgap.dropSilence, hself]
      split
      · rename_i hsame
        exact absurd (List.cons.inj (Option.some.inj hsame)).1 hcomma
      · rename_i hsame
        exact hsame.symm
      · rename_i hsame
        cases hsame
  | @more text afterQuery afterComma next rest hquery hgap hgap' _ ih =>
      obtain ⟨fuel, rfl⟩ := Nat.exists_eq_succ_of_ne_zero (Nat.ne_zero_of_lt hfuel)
      have hquerylength := hquery.length_lt
      have hgaplength := hgap.length_le
      have hgaplength' := hgap'.length_le
      rw [List.length_cons] at hgaplength
      have hself : dropSilence (',' :: afterComma) = ',' :: afterComma :=
        dropSilence_eq_self (afterComment?_calm (by decide) _) (by decide)
      rw [Sql.afterNamedQueries?, hquery.afterNamedQuery?, hgap.dropSilence, hself]
      show Sql.afterNamedQueries? fuel afterComma = some rest
      rw [hgap'.afterNamedQueries?, ih hhead (by omega)]

/-! ## The statement behind the clause -/

/-- A name that goes on behind a word of its characters is a name still without the word. -/
lemma QueryName.of_append {word text rest : List Char} (hne : word ≠ [])
    (hword : ∀ c ∈ word, isNameChar c = true) {c : Char} (hhead : text.head? = some c)
    (hc : isNameChar c = true) (h : QueryName (word ++ text) rest) : QueryName text rest := by
  generalize hall : word ++ text = all at h
  cases h with
  | @bare name rest _ hname hrest =>
      have hstops : rest.head? ≠ some c := fun hsame => by simp [EndsWord, hsame, hc] at hrest
      rcases List.append_eq_append_iff.mp hall with ⟨others, rfl, rfl⟩ | ⟨others, rfl, rfl⟩
      · refine .bare ?_ (fun d hd => hname d (List.mem_append_right _ hd)) hrest
        rintro rfl
        exact hstops hhead
      · cases others with
        | nil => exact absurd hhead hstops
        | cons d others =>
            have hd : isNameChar d = false := hrest
            exact absurd (hword d (by simp)) (by simp [hd])
  | quoted h =>
      obtain ⟨quote, more, rfl, hquote⟩ := h.exists_isQuote
      obtain ⟨d, word, rfl⟩ := List.exists_cons_of_ne_nil hne
      obtain ⟨rfl, -⟩ := List.cons.inj hall
      have hname := (isCalm_iff.mp (isCalm_of_isNameChar (hword d List.mem_cons_self))).1
      simp [hname] at hquote

lemma NamedQueries.of_append {word text rest : List Char} (hne : word ≠ [])
    (hword : ∀ c ∈ word, isNameChar c = true) {c : Char} (hhead : text.head? = some c)
    (hc : isNameChar c = true) (h : NamedQueries (word ++ text) rest) : NamedQueries text rest := by
  generalize hall : word ++ text = all at h
  have hfirst {afterQuery : List Char} (hquery : NamedQuery all afterQuery) :
      NamedQuery text afterQuery := by
    obtain ⟨hname, hgap, hcolumns, has, hgap', hbody⟩ := hquery
    rw [← hall] at hname
    exact .intro (hname.of_append hne hword hhead hc) hgap hcolumns has hgap' hbody
  cases h with
  | last hquery hgap => exact .last (hfirst hquery) hgap
  | more hquery hgap hgap' hothers => exact .more (hfirst hquery) hgap hgap' hothers

/-- Where no first name is `RECURSIVE`, what is taken for the keyword are the first letters of a
name, and named queries are left behind it. -/
lemma NamedQueries.getD_afterRecursive {text rest : List Char} (h : NamedQueries text rest)
    (hname : ∀ more, ¬Word "RECURSIVE" text more) :
    NamedQueries ((afterKeyword? "RECURSIVE".toList text).getD text) rest := by
  cases hkeyword : afterKeyword? "RECURSIVE".toList text with
  | none => exact h
  | some more =>
      obtain ⟨written, rfl, hlower⟩ :=
        Text.dropWord?_eq_some.mp (dropWord?_of_afterKeyword? hkeyword)
      have hwritten : ∀ c ∈ written, isNameChar c = true := fun c hc => by
        have hletters : ("RECURSIVE".toList.map Char.toLower).all Char.isAlpha = true := by decide
        rw [← hlower] at hletters
        have hletter := List.all_eq_true.mp hletters c.toLower (List.mem_map_of_mem hc)
        exact isNameChar_of_isAlpha (Text.isAlpha_of_toLower hletter)
      have hne : written ≠ [] := by
        rintro rfl
        exact absurd hlower (by decide)
      have hgoes : ¬EndsWord more := fun hends => hname more (.intro hlower hends)
      cases more with
      | nil => exact absurd rfl hgoes
      | cons c more => exact h.of_append hne hwritten rfl (by simpa [EndsWord] using hgoes)

lemma NamedQueries.dropSilence {text rest : List Char} (h : NamedQueries text rest) :
    dropSilence text = text := by
  cases h with
  | last hquery =>
      obtain ⟨hname, -⟩ := hquery
      exact hname.dropSilence
  | more hquery =>
      obtain ⟨hname, -⟩ := hquery
      exact hname.dropSilence

/-- **Behind `WITH` the named queries are skipped.** -/
theorem WithClause.mainStatement {text rest : List Char} (h : WithClause text rest) {c : Char}
    (hhead : rest.head? = some c) (hc : c.isAlpha = true) :
    ∃ afterWith, Word "WITH" text afterWith ∧ mainStatement afterWith = fromFirstWord rest := by
  cases h with
  | plain hwith hgap hname hqueries =>
      refine ⟨_, hwith, ?_⟩
      have hskipped := (hqueries.getD_afterRecursive hname).afterNamedQueries? hhead hc
        (Nat.lt_succ_self _)
      simp only [Sql.mainStatement, hgap.dropSilence, hqueries.dropSilence, hskipped]
  | recursive hwith hgap hkeyword hgap' hqueries =>
      refine ⟨_, hwith, ?_⟩
      obtain ⟨d, more, rfl, hd⟩ := hkeyword.exists_isAlpha (by decide)
      have hself := dropSilence_of_isNameChar (isNameChar_of_isAlpha hd) more
      have hskipped := hqueries.afterNamedQueries? hhead hc
        (Nat.lt_succ_of_le hgap'.length_le)
      rw [← hgap'.afterNamedQueries?] at hskipped
      simp only [Sql.mainStatement, hgap.dropSilence, hself, hkeyword.afterKeyword?,
        Option.getD_some, hskipped]

/-! ## The kind of the statement -/

/-- The words by which a statement is told behind named queries. -/
def mainVerbs : List String := ["SELECT", "INSERT", "REPLACE", "UPDATE", "DELETE"]

/-- A text that begins with a letter is its own first word on. -/
lemma fromFirstWord_of_isAlpha {c : Char} (hc : c.isAlpha = true) (text : List Char) :
    fromFirstWord (c :: text) = c :: text := by
  have hascii := Text.ascii_forall (p := fun c => !c.isAlpha || (!Text.isBlank c &&
    c != '-' && c != '#' && c != '/' && c != '(')) (by decide) (Text.toNat_lt_of_isAlpha hc)
  simp only [hc, Bool.not_true, Bool.false_or, Bool.and_eq_true, Bool.not_eq_true', bne_iff_ne]
    at hascii
  obtain ⟨⟨⟨⟨hblank, hminus⟩, hhash⟩, hslash⟩, hopen⟩ := hascii
  refine fromFirstWord_eq_self (List.dropWhile_cons_of_neg (by simp [hblank])) ?_
  unfold afterLead?
  split <;> simp_all

/-- A statement that begins with its verb is told by what it begins with. -/
lemma exists_isAlpha_of_verb {verb : String} (hverb : verb ∈ mainVerbs) {text : List Char}
    (h : startsWithKeyword verb text = true) :
    ∃ c more, text = c :: more ∧ c.isAlpha = true ∧ c.toLower ≠ 'w' := by
  obtain ⟨rest, hrest⟩ := Option.isSome_iff_exists.mp h
  have hletters : ∀ verb ∈ mainVerbs,
      (verb.toList.head?.map Char.toLower).any Char.isAlpha = true ∧
        verb.toList.head?.map Char.toLower ≠ some 'w' := by decide
  obtain ⟨hletter, hother⟩ := hletters verb hverb
  obtain ⟨c, more, rfl, hsame, hc⟩ := exists_isAlpha_of_afterKeyword? hletter hrest
  exact ⟨c, more, rfl, hc, fun hw => hother (hsame.trans (congrArg some hw))⟩

/-- Such a statement has no named queries in front of it. -/
lemma decidingStatement_of_verb {verb : String} (hverb : verb ∈ mainVerbs) {text : List Char}
    (h : startsWithKeyword verb text = true) : decidingStatement text = text := by
  obtain ⟨c, more, rfl, hc, hw⟩ := exists_isAlpha_of_verb hverb h
  have hwith : afterKeyword? "WITH".toList (c :: more) = none := by
    rw [← Option.not_isSome_iff_eq_none]
    intro hsome
    obtain ⟨rest, hrest⟩ := Option.isSome_iff_exists.mp hsome
    obtain ⟨d, others, hsame, hfirst, -⟩ := exists_isAlpha_of_afterKeyword? (by decide) hrest
    obtain ⟨rfl, -⟩ := List.cons.inj hsame
    exact hw (Option.some.inj hfirst).symm
  simp only [decidingStatement, fromFirstWord_of_isAlpha hc, hwith]

/-- **A list of named queries never hides the statement behind it.**  Whatever its names, its bodies
and the gaps between its words hold, the kind of the whole is the kind of that statement. -/
theorem classify_withClause {sql statement : String}
    (hclause : WithClause sql.toList statement.toList)
    (hverb : ∃ verb ∈ mainVerbs, startsWithKeyword verb statement.toList = true) :
    classify sql = classify statement := by
  obtain ⟨verb, hmem, hverb⟩ := hverb
  have hself := decidingStatement_of_verb hmem hverb
  obtain ⟨c, more, hstatement, hc, -⟩ := exists_isAlpha_of_verb hmem hverb
  have hhead : statement.toList.head? = some c := by rw [hstatement, List.head?_cons]
  obtain ⟨afterWith, hwith, hmain⟩ := hclause.mainStatement hhead hc
  obtain ⟨d, others, hsql, hd⟩ := hwith.exists_isAlpha (by decide)
  have hclassified : decidingStatement sql.toList = statement.toList := by
    have hkeyword := hwith.afterKeyword?
    rw [hsql] at hkeyword ⊢
    rw [hstatement, fromFirstWord_of_isAlpha hc] at hmain
    simp only [decidingStatement, fromFirstWord_of_isAlpha hd, hkeyword, hmain, hstatement]
  rw [classify, classify, hclassified, hself]

/-- Parentheses stand in the name, in quotes and in two comments, and one group in another. -/
theorem classify_withClause_of_hostile :
    let sql := "WITH RECURSIVE`)`(n)AS(')'/*(*/), b-- (\nAS ((n)) DELETE FROM t"
    WithClause sql.toList "DELETE FROM t".toList ∧
      (∃ verb ∈ mainVerbs, startsWithKeyword verb "DELETE FROM t".toList = true) ∧
      classify sql = .delete := by
  have hblank {text : List Char} : Gap (' ' :: text) text := .blank rfl (.nil text)
  have hfirst : NamedQuery "`)`(n)AS(')'/*(*/), b-- (\nAS ((n)) DELETE FROM t".toList
      ", b-- (\nAS ((n)) DELETE FROM t".toList := by
    refine .intro (.quoted (begins_isQuoted_iff.mpr rfl)) (.nil _)
      (.listed (.intro (@Balanced.calm_append ['n'] _ _ (by decide) (.nil _))) (.nil _))
      (@Word.intro "AS" "AS".toList _ rfl rfl) (.nil _) (.intro ?_)
    refine .quoted (begins_isQuoted_iff.mpr rfl) ?_
    exact .comment (begins_isComment_iff.mpr rfl) (.nil _)
  have hsecond : NamedQuery "b-- (\nAS ((n)) DELETE FROM t".toList
      " DELETE FROM t".toList := by
    refine .intro (@QueryName.bare ['b'] _ (by decide) (List.forall_mem_singleton.mpr rfl) rfl)
      (.comment (begins_isComment_iff.mpr rfl) (.nil _)) (.none _)
      (@Word.intro "AS" "AS".toList _ rfl rfl) (.blank rfl (.nil _)) (.intro ?_)
    exact .group (@Balanced.calm_append ['n'] _ _ (by decide) (.nil _)) (.nil _)
  have hclause : WithClause ("WITH".toList ++ ' ' :: ("RECURSIVE".toList ++
      "`)`(n)AS(')'/*(*/), b-- (\nAS ((n)) DELETE FROM t".toList)) "DELETE FROM t".toList :=
    .recursive (.intro rfl rfl) hblank (.intro rfl rfl) (.nil _)
      (.more hfirst (.nil _) hblank (.last hsecond hblank))
  have hverb : ∃ verb ∈ mainVerbs, startsWithKeyword verb "DELETE FROM t".toList = true :=
    ⟨"DELETE", by decide, by decide⟩
  refine ⟨hclause, hverb, (?_ : _ = classify "DELETE FROM t").trans ?_⟩
  · exact classify_withClause hclause hverb
  · decide +kernel

end SqlAccess.Sql
