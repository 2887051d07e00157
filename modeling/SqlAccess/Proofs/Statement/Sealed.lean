import SqlAccess.Proofs.Entries
import SqlAccess.Proofs.Sql.Encoded
import SqlAccess.Proofs.Statement.Request

/-!
# Statements are sealed

**Nothing that a caller passes as data gets out of its literal.**  Whatever text, bytes, numbers,
dates, lists and column names a request without raw SQL is made of, the statement that is built for
it is sealed: the scan meets no comment and no semicolon outside of quoted pieces, and it ends
outside of every quoted piece, so that a statement put behind a semicolon is seen as a second one.

The statement is put together from clauses.  Each is sealed and begins with a calm character or not
at all (`Trails`), and so may stand behind whatever comes before it.
-/

namespace SqlAccess

open Sql

/-! ## Clauses -/

/-- Whether a text may stand behind any sealed text: it is sealed and begins with no mark. -/
structure Trails (text : String) : Prop where
  isSealed : Sealed text.toList
  opens : opensPiece text.toList = false

/-- A sealed text with a clause behind it is sealed. -/
lemma Trails.append {text clause : String} (h : Trails clause) (htext : Sealed text.toList) :
    Sealed (text ++ clause).toList := by
  rw [String.toList_append]
  exact htext.append h.isSealed h.opens

/-- A calm text may stand behind any sealed text. -/
lemma Trails.ofCalm {text : String} (h : Calm text.toList) : Trails text := by
  refine ⟨.ofCalm h, ?_⟩
  cases htext : text.toList with
  | nil => rfl
  | cons c rest => exact (isCalm_iff.mp (h c (htext ▸ List.mem_cons_self))).1

/-- A calm word with a sealed text behind it may stand behind any sealed text. -/
lemma Trails.word {word text : String} (hne : word.toList ≠ [])
    (hword : Calm word.toList) (htext : Sealed text.toList) :
    Trails (word ++ text) := by
  constructor
  · rw [String.toList_append]
    exact .calm_append hword htext
  · rw [String.toList_append]
    exact opensPiece_calm hne hword _

lemma sealed_commas {texts : List String} (h : ∀ text ∈ texts, Sealed text.toList) :
    Sealed (", ".intercalate texts).toList := by
  rw [String.toList_intercalate]
  refine .intercalate (by simp) (by decide) fun text htext => ?_
  obtain ⟨s, hs, rfl⟩ := List.mem_map.mp htext
  exact h s hs

lemma sealed_tupleSql {texts : List String} (h : ∀ text ∈ texts, Sealed text.toList) :
    Sealed (tupleSql texts).toList := by
  refine (Trails.ofCalm (by decide)).append ?_
  exact (Trails.word (by simp) (by decide) (sealed_commas h)).isSealed

lemma trails_whereClause {f : Filter} (hfree : f.isRawFree = true) {clause : String}
    (h : whereClause f = .ok clause) : Trails clause := by
  obtain ⟨condition?, hcondition, h⟩ := bind_eq_ok.mp h
  cases condition? with
  | none =>
      obtain rfl := Except.ok.inj h
      exact .ofCalm (by decide)
  | some condition =>
      obtain rfl := Except.ok.inj h
      have hsealed := Filter.sealed_whereSql hfree (mapError_eq_ok.mp hcondition)
      exact .word (by simp) (by decide) hsealed

/-- The filter that a source without raw SQL stands for is without raw SQL. -/
lemma isRawFree_of_statementFilter {source : FilterSource} (hfree : source.isRawFree = true)
    {f : Filter} (h : statementFilter source = .ok f) : f.isRawFree = true := by
  have hsource : source.toFilter = .ok f := mapError_eq_ok.mp h
  simpa [FilterSource.isRawFree, hsource] using hfree

lemma isRawFree_of_statementRecord {source : RecordSource} (hfree : source.isRawFree = true)
    {r : Record} (h : statementRecord source = .ok r) : r.isRawFree = true := by
  have hsource : source.toRecord = .ok r := mapError_eq_ok.mp h
  simpa [RecordSource.isRawFree, hsource] using hfree

/-- A column of a statement is sealed, bare and inside backticks. -/
lemma sealed_statementColumn {name : String} (hname : holdsArrow name = false) {column : Column}
    (h : statementColumn name = .ok column) :
    Sealed column.sql.toList ∧ Sealed column.quotedSql.toList :=
  Column.sealed_of_normalize (mapError_eq_ok.mp h) hname

/-! ## Reading -/

lemma sealed_sortKeys {sort : List (String × SortDirection)}
    (hfree : (sort.all fun (name, _) => !holdsArrow name) = true) {keys : List String}
    (h : sortKeys sort = .ok keys) : ∀ key ∈ keys, Sealed key.toList := by
  induction sort generalizing keys with
  | nil =>
      obtain rfl := Except.ok.inj h
      simp
  | cons entry sort ih =>
      obtain ⟨name, direction⟩ := entry
      simp only [List.all_cons, Bool.and_eq_true, Bool.not_eq_true'] at hfree
      obtain ⟨column, hcolumn, h⟩ := bind_eq_ok.mp h
      obtain ⟨others, hothers, h⟩ := bind_eq_ok.mp h
      obtain rfl := Except.ok.inj h
      have hdirection : Calm direction.sql.toList := by
        cases direction <;> decide
      have hkey := sealed_column_word (sealed_statementColumn hfree.1 hcolumn).1 hdirection
      exact List.forall_mem_cons.mpr ⟨hkey, ih hfree.2 hothers⟩

lemma trails_orderClause {options : QueryOptions} (hfree : options.isRawFree = true)
    {clause : String} (h : orderClause options.sort = .ok clause) : Trails clause := by
  obtain ⟨keys, hkeys, h⟩ := bind_eq_ok.mp h
  obtain rfl := Except.ok.inj h
  split_ifs
  · exact .ofCalm (by decide)
  · exact .word (by simp) (by decide) (sealed_commas (sealed_sortKeys hfree hkeys))

/-- The `LIMIT` clause holds digits and calm words. -/
lemma trails_limitClause (options : QueryOptions) : Trails (limitClause options) := by
  have hdigits : ∀ n : Nat, Calm (toString n).toList := fun n => by
    simpa using calm_toDigits n
  have hlimit : Calm " LIMIT ".toList := by decide
  have hoffset : Calm " OFFSET ".toList := by decide
  unfold limitClause
  split
  · refine .ofCalm ?_
    simp only [String.toList_append]
    exact ((hlimit.append (hdigits _)).append hoffset).append (hdigits _)
  · refine .ofCalm ?_
    rw [String.toList_append]
    exact hlimit.append (hdigits _)
  · exact .ofCalm (by decide)

/-! ## Writing -/

lemma sealed_writtenValue {key : String} {value : Value} (hvalue : value.isRaw = false)
    {literal : String} (h : writtenValue key value = .ok literal) : Sealed literal.toList := by
  unfold writtenValue at h
  split_ifs at h
  obtain rfl := Except.ok.inj h
  rw [Value.sql, String.toList_ofList]
  exact sealed_literal hvalue

lemma sealed_assignmentsOf {entries : Entries Value}
    (hfree : (Record.mk entries).isRawFree = true) {assignments : List String}
    (h : assignmentsOf entries = .ok assignments) :
    ∀ assignment ∈ assignments, Sealed assignment.toList := by
  induction entries generalizing assignments with
  | nil =>
      obtain rfl := Except.ok.inj h
      simp
  | cons entry entries ih =>
      obtain ⟨key, value⟩ := entry
      simp only [Record.isRawFree, List.all_cons, Bool.and_eq_true, Bool.not_eq_true'] at hfree
      obtain ⟨column, hcolumn, h⟩ := bind_eq_ok.mp h
      obtain ⟨literal, hliteral, h⟩ := bind_eq_ok.mp h
      obtain ⟨others, hothers, h⟩ := bind_eq_ok.mp h
      obtain rfl := Except.ok.inj h
      have hfirst := (sealed_statementColumn hfree.1.1 hcolumn).2
      have hlast := sealed_writtenValue hfree.1.2 hliteral
      refine List.forall_mem_cons.mpr ⟨?_, ih hfree.2 hothers⟩
      rw [String.append_assoc]
      exact (Trails.word (by simp) (by decide) hlast).append hfirst

/-- The assignments of columns to the values that were to be inserted are sealed. -/
lemma sealed_insertedAssignments {names : List String}
    (hfree : (names.all fun name => !holdsArrow name) = true) {assignments : List String}
    (h : insertedAssignments names = .ok assignments) :
    ∀ assignment ∈ assignments, Sealed assignment.toList := by
  induction names generalizing assignments with
  | nil =>
      obtain rfl := Except.ok.inj h
      simp
  | cons name names ih =>
      simp only [List.all_cons, Bool.and_eq_true, Bool.not_eq_true'] at hfree
      obtain ⟨column, hcolumn, h⟩ := bind_eq_ok.mp h
      obtain ⟨others, hothers, h⟩ := bind_eq_ok.mp h
      obtain rfl := Except.ok.inj h
      have hquoted := (sealed_statementColumn hfree.1 hcolumn).2
      refine List.forall_mem_cons.mpr ⟨?_, ih hfree.2 hothers⟩
      have hcall : Sealed (column.quotedSql ++ ")").toList :=
        (Trails.ofCalm (by decide)).append hquoted
      rw [String.append_assoc, String.append_assoc]
      exact (Trails.word (by simp) (by decide) hcall).append hquoted

lemma sealed_onDuplicate {onDuplicate : OnDuplicate} (hfree : onDuplicate.isRawFree = true)
    {assignments : String} (h : onDuplicate.sql = .ok assignments) :
    Sealed assignments.toList := by
  cases onDuplicate with
  | values r =>
      obtain ⟨texts, htexts, h⟩ := bind_eq_ok.mp h
      simp only at h
      split_ifs at h
      obtain rfl := Except.ok.inj h
      exact sealed_commas (sealed_assignmentsOf hfree htexts)
  | columns names =>
      obtain ⟨texts, htexts, h⟩ := bind_eq_ok.mp h
      simp only at h
      split_ifs at h
      obtain rfl := Except.ok.inj h
      exact sealed_commas (sealed_insertedAssignments hfree htexts)

lemma trails_onDuplicateClause {assignments : String} (h : Sealed assignments.toList) :
    Trails (onDuplicateClause assignments) :=
  .word (by simp) (by decide) h

/-! ## Rows -/

lemma sealed_statementColumns {names : List String}
    (hfree : ∀ name ∈ names, holdsArrow name = false) {columns : List Column}
    (h : statementColumns names = .ok columns) :
    ∀ name ∈ columns.map Column.quotedSql, Sealed name.toList := by
  induction names generalizing columns with
  | nil =>
      obtain rfl := Except.ok.inj h
      simp
  | cons name names ih =>
      rw [List.forall_mem_cons] at hfree
      obtain ⟨column, hcolumn, h⟩ := bind_eq_ok.mp h
      obtain ⟨others, hothers, h⟩ := bind_eq_ok.mp h
      obtain rfl := Except.ok.inj h
      exact List.forall_mem_cons.mpr ⟨(sealed_statementColumn hfree.1 hcolumn).2,
        ih hfree.2 hothers⟩

/-- All literals that are set for a row are sealed if those that were set before are. -/
lemma sealed_setColumns {names : List String} {row : Nat} {entries : Entries Value}
    (hfree : (Record.mk entries).isRawFree = true) {before after : Entries String}
    (hbefore : ∀ entry ∈ before, Sealed entry.2.toList)
    (h : setColumns names row before entries = .ok after) :
    ∀ entry ∈ after, Sealed entry.2.toList := by
  induction entries generalizing before with
  | nil =>
      obtain rfl := Except.ok.inj h
      exact hbefore
  | cons entry entries ih =>
      obtain ⟨key, value⟩ := entry
      simp only [Record.isRawFree, List.all_cons, Bool.and_eq_true, Bool.not_eq_true'] at hfree
      obtain ⟨column, -, h⟩ := bind_eq_ok.mp h
      simp only at h
      split_ifs at h
      obtain ⟨literal, hliteral, h⟩ := bind_eq_ok.mp h
      refine ih hfree.2 (List.forall_mem_append.mpr ⟨hbefore, ?_⟩) h
      simpa using sealed_writtenValue hfree.1.2 hliteral

lemma sealed_literalsInOrder {row : Nat} {entries : Entries String}
    (hentries : ∀ entry ∈ entries, Sealed entry.2.toList) {names literals : List String}
    (h : literalsInOrder row entries names = .ok literals) :
    ∀ literal ∈ literals, Sealed literal.toList := by
  induction names generalizing literals with
  | nil =>
      obtain rfl := Except.ok.inj h
      simp
  | cons name names ih =>
      rw [literalsInOrder] at h
      split at h
      · simp at h
      · rename_i literal hliteral
        obtain ⟨others, hothers, rfl⟩ := map_eq_ok.mp h
        have hmem := Entries.mem_of_find? hliteral
        exact List.forall_mem_cons.mpr ⟨hentries _ hmem, ih hothers⟩

lemma sealed_rowLiterals {names : List String} {row : Nat} {r : Record}
    (hfree : r.isRawFree = true) {literals : List String}
    (h : rowLiterals names row r = .ok literals) : ∀ literal ∈ literals, Sealed literal.toList := by
  obtain ⟨set, hset, h⟩ := bind_eq_ok.mp h
  exact sealed_literalsInOrder (sealed_setColumns hfree (by simp) hset) h

lemma sealed_furtherRows {names : List String} {row : Nat} {sources : List RecordSource}
    (hfree : (sources.all RecordSource.isRawFree) = true) {rows : List (List String)}
    (h : furtherRows names row sources = .ok rows) :
    ∀ literals ∈ rows, ∀ literal ∈ literals, Sealed literal.toList := by
  induction sources generalizing row rows with
  | nil =>
      obtain rfl := Except.ok.inj h
      simp
  | cons source sources ih =>
      rw [List.all_cons, Bool.and_eq_true] at hfree
      obtain ⟨r, hr, h⟩ := bind_eq_ok.mp h
      obtain ⟨literals, hliterals, h⟩ := bind_eq_ok.mp h
      obtain ⟨others, hothers, h⟩ := bind_eq_ok.mp h
      obtain rfl := Except.ok.inj h
      have hrow := sealed_rowLiterals (isRawFree_of_statementRecord hfree.1 hr) hliterals
      exact List.forall_mem_cons.mpr ⟨hrow, ih hfree.2 hothers⟩

/-- The names and the literals of rows without raw SQL are sealed. -/
lemma sealed_ofSources {sources : List RecordSource}
    (hfree : (sources.all RecordSource.isRawFree) = true) {rows : InsertRows}
    (h : InsertRows.ofSources sources = .ok rows) :
    (∀ name ∈ rows.names, Sealed name.toList) ∧
      ∀ literals ∈ rows.rows, ∀ literal ∈ literals, Sealed literal.toList := by
  cases sources with
  | nil => simp [InsertRows.ofSources] at h
  | cons first others =>
      rw [List.all_cons, Bool.and_eq_true] at hfree
      obtain ⟨r, hr, h⟩ := bind_eq_ok.mp h
      split_ifs at h
      obtain ⟨columns, hcolumns, h⟩ := bind_eq_ok.mp h
      obtain ⟨literals, hliterals, h⟩ := bind_eq_ok.mp h
      obtain ⟨further, hfurther, h⟩ := bind_eq_ok.mp h
      obtain rfl := Except.ok.inj h
      have hrecord := isRawFree_of_statementRecord hfree.1 hr
      have hnames : ∀ name ∈ r.keys, holdsArrow name = false := fun name hname => by
        obtain ⟨⟨key, value⟩, hentry, rfl⟩ := List.mem_map.mp hname
        have hall := List.all_eq_true.mp hrecord _ hentry
        simp only [Bool.and_eq_true, Bool.not_eq_true'] at hall
        exact hall.1
      exact ⟨sealed_statementColumns hnames hcolumns, List.forall_mem_cons.mpr
        ⟨sealed_rowLiterals hrecord hliterals, sealed_furtherRows hfree.2 hfurther⟩⟩

/-- An inserting statement is sealed up to what it says about duplicates. -/
lemma sealed_insertRows {table : Ident} (htable : table.IsValid) {rows : InsertRows}
    (hnames : ∀ name ∈ rows.names, Sealed name.toList)
    (hrows : ∀ literals ∈ rows.rows, ∀ literal ∈ literals, Sealed literal.toList) :
    Sealed (rows.sql table).toList := by
  have htuples : Sealed (", ".intercalate (rows.rows.map tupleSql)).toList := by
    refine sealed_commas fun text htext => ?_
    obtain ⟨literals, hliterals, rfl⟩ := List.mem_map.mp htext
    exact sealed_tupleSql (hrows literals hliterals)
  have htarget : Trails ("INSERT INTO " ++ table.sql) := .word (by simp) (by decide) htable.sealed
  have hcolumns : Trails (" " ++ tupleSql rows.names) :=
    .word (by simp) (by decide) (sealed_tupleSql hnames)
  have hvalues : Trails (" VALUES " ++ ", ".intercalate (rows.rows.map tupleSql)) :=
    .word (by simp) (by decide) htuples
  have hhead := hcolumns.append htarget.isSealed
  rw [← String.append_assoc] at hhead
  rw [InsertRows.sql, String.append_assoc]
  exact hvalues.append hhead

/-! ## Statements -/

lemma Statement.sealed_select {table : Ident} (htable : table.IsValid) {filter : FilterSource}
    (hfilter : filter.isRawFree = true) {options : QueryOptions}
    (hoptions : options.isRawFree = true) {sql : String}
    (h : Statement.select table filter options = .ok sql) : Sealed sql.toList := by
  obtain ⟨_, -, h⟩ := bind_eq_ok.mp h
  obtain ⟨f, hf, h⟩ := bind_eq_ok.mp h
  obtain ⟨condition, hcondition, h⟩ := bind_eq_ok.mp h
  obtain ⟨order, horder, h⟩ := bind_eq_ok.mp h
  obtain rfl := Except.ok.inj h
  have htarget : Trails ("SELECT * FROM " ++ table.sql) :=
    .word (by simp) (by decide) htable.sealed
  have hwhere := trails_whereClause (isRawFree_of_statementFilter hfilter hf) hcondition
  have horder := trails_orderClause hoptions horder
  exact (trails_limitClause options).append (horder.append (hwhere.append htarget.isSealed))

lemma Statement.sealed_count {table : Ident} (htable : table.IsValid) {filter : FilterSource}
    (hfilter : filter.isRawFree = true) {sql : String}
    (h : Statement.count table filter = .ok sql) : Sealed sql.toList := by
  obtain ⟨f, hf, h⟩ := bind_eq_ok.mp h
  obtain ⟨condition, hcondition, h⟩ := bind_eq_ok.mp h
  obtain rfl := Except.ok.inj h
  have htarget : Trails ("SELECT COUNT(*) AS count FROM " ++ table.sql) :=
    .word (by simp) (by decide) htable.sealed
  have hwhere := trails_whereClause (isRawFree_of_statementFilter hfilter hf) hcondition
  exact hwhere.append htarget.isSealed

lemma Statement.sealed_insert {table : Ident} (htable : table.IsValid)
    {sources : List RecordSource} (hsources : (sources.all RecordSource.isRawFree) = true)
    {mode : InsertMode} {sql : String} (h : Statement.insert table sources mode = .ok sql) :
    Sealed sql.toList := by
  obtain ⟨rows, hrows, h⟩ := bind_eq_ok.mp h
  obtain ⟨hnames, hliterals⟩ := sealed_ofSources hsources hrows
  have hinsert := sealed_insertRows htable hnames hliterals
  cases mode with
  | plain =>
      obtain rfl := Except.ok.inj h
      exact hinsert
  | ignoreDuplicates =>
      obtain rfl := Except.ok.inj h
      have hfirst : Sealed (rows.names.headD "").toList := by
        cases hnil : rows.names with
        | nil => exact .nil
        | cons name names => exact hnames name (hnil ▸ List.mem_cons_self)
      have hequals : Trails (" = " ++ rows.names.headD "") := .word (by simp) (by decide) hfirst
      have hself := hequals.append hfirst
      rw [← String.append_assoc] at hself
      exact (trails_onDuplicateClause hself).append hinsert

lemma Statement.sealed_upsertBulk {table : Ident} (htable : table.IsValid)
    {sources : List RecordSource} (hsources : (sources.all RecordSource.isRawFree) = true)
    {onDuplicate : OnDuplicate} (honDuplicate : onDuplicate.isRawFree = true) {sql : String}
    (h : Statement.upsertBulk table sources onDuplicate = .ok sql) : Sealed sql.toList := by
  obtain ⟨rows, hrows, h⟩ := bind_eq_ok.mp h
  obtain ⟨assignments, hassignments, h⟩ := bind_eq_ok.mp h
  obtain rfl := Except.ok.inj h
  obtain ⟨hnames, hliterals⟩ := sealed_ofSources hsources hrows
  have hclause := trails_onDuplicateClause (sealed_onDuplicate honDuplicate hassignments)
  exact hclause.append (sealed_insertRows htable hnames hliterals)

lemma Statement.trails_requiredWhere {table : Ident} {verb : String} {f : Filter}
    (hfree : f.isRawFree = true) {clause : String}
    (h : requiredWhere table verb f = .ok clause) : Trails clause := by
  unfold requiredWhere at h
  split_ifs at h
  exact trails_whereClause hfree h

lemma Statement.sealed_update {table : Ident} (htable : table.IsValid) {filter : FilterSource}
    (hfilter : filter.isRawFree = true) {args : RecordSource} (hargs : args.isRawFree = true)
    {sql : String} (h : Statement.update table filter args = .ok sql) : Sealed sql.toList := by
  obtain ⟨f, hf, h⟩ := bind_eq_ok.mp h
  obtain ⟨r, hr, h⟩ := bind_eq_ok.mp h
  split_ifs at h
  obtain ⟨assignments, hassignments, h⟩ := bind_eq_ok.mp h
  obtain ⟨condition, hcondition, h⟩ := bind_eq_ok.mp h
  obtain rfl := Except.ok.inj h
  have htarget : Trails ("UPDATE " ++ table.sql) := .word (by simp) (by decide) htable.sealed
  have hrecord := isRawFree_of_statementRecord hargs hr
  have hset : Trails (" SET " ++ ", ".intercalate assignments) :=
    .word (by simp) (by decide) (sealed_commas (sealed_assignmentsOf hrecord hassignments))
  have hhead := hset.append htarget.isSealed
  rw [← String.append_assoc] at hhead
  exact (trails_requiredWhere (isRawFree_of_statementFilter hfilter hf) hcondition).append hhead

lemma Statement.sealed_delete {table : Ident} (htable : table.IsValid) {filter : FilterSource}
    (hfilter : filter.isRawFree = true) {sql : String}
    (h : Statement.delete table filter = .ok sql) : Sealed sql.toList := by
  obtain ⟨f, hf, h⟩ := bind_eq_ok.mp h
  obtain ⟨condition, hcondition, h⟩ := bind_eq_ok.mp h
  obtain rfl := Except.ok.inj h
  have htarget : Trails ("DELETE FROM " ++ table.sql) := .word (by simp) (by decide) htable.sealed
  have hwhere := trails_requiredWhere (isRawFree_of_statementFilter hfilter hf) hcondition
  exact hwhere.append htarget.isSealed

/-- A sealed statement is sealed with its number of rows limited to one. -/
lemma Statement.sealed_limitOne {built : Except StatementError String} {sql : String}
    (hsealed : ∀ text, built = .ok text → Sealed text.toList)
    (h : built.map (· ++ " LIMIT 1") = .ok sql) : Sealed sql.toList := by
  obtain ⟨text, htext, rfl⟩ := map_eq_ok.mp h
  exact (Trails.ofCalm (by decide)).append (hsealed text htext)

/-- **The statement of a request without raw SQL is sealed.** -/
theorem Request.sealed_build {table : Ident} (htable : table.IsValid) {request : Request}
    (hfree : request.isRawFree = true) {sql : String} (h : request.build table = .ok sql) :
    Sealed sql.toList := by
  have hone {source : RecordSource} (hsource : source.isRawFree = true) :
      ([source].all RecordSource.isRawFree) = true := by simpa using hsource
  cases request with
  | select filter options =>
      rw [isRawFree, Bool.and_eq_true] at hfree
      exact Statement.sealed_select htable hfree.1 hfree.2 h
  | count filter => exact Statement.sealed_count htable hfree h
  | insert rows mode => exact Statement.sealed_insert htable hfree h
  | insertOne row mode => exact Statement.sealed_insert htable (hone hfree) h
  | upsert row onDuplicate =>
      rw [isRawFree, Bool.and_eq_true] at hfree
      exact Statement.sealed_upsertBulk htable (hone hfree.1) hfree.2 h
  | upsertBulk rows onDuplicate =>
      rw [isRawFree, Bool.and_eq_true] at hfree
      exact Statement.sealed_upsertBulk htable hfree.1 hfree.2 h
  | update filter args =>
      rw [isRawFree, Bool.and_eq_true] at hfree
      exact Statement.sealed_update htable hfree.1 hfree.2 h
  | updateOne filter args =>
      rw [isRawFree, Bool.and_eq_true] at hfree
      exact Statement.sealed_limitOne (fun _ => Statement.sealed_update htable hfree.1 hfree.2) h
  | delete filter => exact Statement.sealed_delete htable hfree h
  | deleteOne filter =>
      exact Statement.sealed_limitOne (fun _ => Statement.sealed_delete htable hfree) h

/-- **Data stays inside its literals.**  The scan of a statement that is built without raw SQL meets
no comment and no semicolon outside of quoted pieces, and it ends outside of every quoted piece.  So
the statement holds no second one, and a second one behind a semicolon is seen. -/
theorem Request.scan_build (table : Ident) (htable : table.IsValid) (request : Request)
    (hfree : request.isRawFree = true) (sql : String) (h : request.build table = .ok sql) :
    (∀ lexeme ∈ lexemes sql.toList, lexeme ≠ .comment ∧ lexeme ≠ .plain ';') ∧
      endsOutside sql.toList = true ∧
      holdsSeveral sql = false ∧ holdsSeveral (sql ++ "; x") = true := by
  have hsealed := sealed_build htable hfree h
  refine ⟨fun lexeme hlexeme => hsealed.lexemes_mem hlexeme, hsealed.endsOutside, ?_, ?_⟩
  · have halone : goesOn false (lexemes (sql.toList ++ [])) = goesOn false (lexemes []) :=
      hsealed.goesOn_lexemes rfl
    rw [List.append_nil] at halone
    rw [holdsSeveral_eq, halone, lexemes, goesOn]
  · have hsecond : goesOn false (lexemes "; x".toList) = true := by decide +kernel
    rw [holdsSeveral_eq, String.toList_append, hsealed.goesOn_lexemes rfl, hsecond]

/-- Quotes, backticks, semicolons and signs of comments stay where they are put. -/
theorem Request.scan_build_of_hostile :
    let table : Ident := ⟨[.backticked "odd`; --"]⟩
    let request := Request.update (.filter ⟨[("note", .equals (.list [.text "it's"]))]⟩)
      (.record ⟨[("end", .text "\\'; -- /*")]⟩)
    let sql := "UPDATE `odd``; --` SET `end` = '\\\\\\'; -- /*' WHERE (note IN ('it\\'s'))"
    request.build table = .ok sql ∧
      holdsSeveral sql = false ∧ holdsSeveral (sql ++ "; x") = true := by
  intro table request sql
  have htable : table.IsValid := ⟨by decide, by decide⟩
  have hbuilt : request.build table = .ok sql := rfl
  have hscan := Request.scan_build table htable request (by decide) sql hbuilt
  exact ⟨hbuilt, hscan.2.2⟩

end SqlAccess
