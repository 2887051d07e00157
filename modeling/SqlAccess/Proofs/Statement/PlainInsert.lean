import SqlAccess.Proofs.Literal
import SqlAccess.Proofs.Statement.Alignment
import SqlAccess.Proofs.Statement.Kind

/-!
# When a plain insert is taken for an upsert

The clause about duplicates is looked for in the whole text of an insert, in its literals and in its
names too.  So a plain insert may well be taken for an upsert: it is enough that somebody stores the
words of the clause as text.  **`Statement.classify_insert_plain`** says exactly when that happens.
The table, the columns and the literals are separated by commas, parentheses and quotation marks,
which the clause does not hold, so it is found in the statement only if it stands in one of them;
and the literals of numbers, truth values, bytes, dates and times do not have the letters for it.
-/

namespace SqlAccess

/-! ## What carries the clause -/

/-- Whether the literal of a value holds the words of the clause. -/
def Value.carriesClause : Value → Bool
  | .text s => Sql.holdsDuplicateClause (s.toList.flatMap literalChar)
  | .raw sql => Sql.holdsDuplicateClause sql.toList
  | _ => false

/-- Whether the quoted name of the column that a name stands for holds the words of the clause. -/
def nameCarriesClause (key : String) : Bool :=
  (quotedName? key).any fun name => Sql.holdsDuplicateClause name.toList

/-- Whether a name or a value of a row carries the clause. -/
def Record.carriesClause (r : Record) : Bool :=
  r.entries.any fun (key, value) => nameCarriesClause key || value.carriesClause

/-- Whether what a row is made from carries the clause. -/
def RecordSource.carriesClause (source : RecordSource) : Bool :=
  match source.toRecord with
  | .ok r => r.carriesClause
  | .error _ => false

/-- Whether a table or one of the rows that are inserted into it carries the clause. -/
def insertCarriesClause (table : Ident) (rows : List RecordSource) : Bool :=
  Sql.holdsDuplicateClause table.sql.toList || rows.any RecordSource.carriesClause

/-! ## Literals -/

lemma lacksLetter_of_isDigit (c : Char) (h : c.isDigit = true) : c ≠ 'y' ∧ c ≠ 'Y' := by
  constructor <;> rintro rfl <;> simp at h

/-- What stands in quotes holds the clause if what is inside does. -/
lemma holdsDuplicateClause_quoted {quote : Char} (hquote : Sql.cutsClause quote = true)
    (inside : List Char) :
    Sql.holdsDuplicateClause (quote :: inside ++ [quote]) = Sql.holdsDuplicateClause inside := by
  rw [Sql.holdsDuplicateClause_concat hquote, Sql.holdsDuplicateClause_cons hquote]

/-- **Of all literals only text and raw SQL may hold the clause.** -/
theorem holdsDuplicateClause_literal {value : Value} (h : value.isList = false) :
    Sql.holdsDuplicateClause value.literal = value.carriesClause := by
  have hquote : Sql.cutsClause '\'' = true := by decide
  cases value with
  | null => simp only [Value.literal]; decide
  | bool b => cases b <;> simp only [Value.literal] <;> decide
  | int n =>
      rw [Value.literal]
      exact Sql.holdsDuplicateClause_of_forall
        (forall_mem_intText lacksLetter_of_isDigit (by decide) _)
  | uint n =>
      rw [Value.literal]
      exact Sql.holdsDuplicateClause_of_forall
        (forall_mem_intText lacksLetter_of_isDigit (by decide) _)
  | float x =>
      rw [Value.literal]
      split_ifs
      · exact Sql.holdsDuplicateClause_of_forall
          (forall_mem_floatText lacksLetter_of_isDigit (by decide) (by decide) (by decide) x)
      · show Sql.holdsDuplicateClause ['N', 'U', 'L', 'L'] = false
        decide
  | text s =>
      rw [Value.literal, textLiteral, holdsDuplicateClause_quoted hquote]
      rfl
  | bytes b =>
      rw [Value.literal, bytesLiteral, List.cons_append,
        Sql.holdsDuplicateClause_cons (by decide), holdsDuplicateClause_quoted hquote]
      exact Sql.holdsDuplicateClause_of_forall (forall_mem_hexBytes (by decide) b)
  | date d =>
      rw [Value.literal, holdsDuplicateClause_quoted hquote]
      exact Sql.holdsDuplicateClause_of_forall
        (forall_mem_date lacksLetter_of_isDigit (by decide) d)
  | dateTime dt =>
      rw [Value.literal, holdsDuplicateClause_quoted hquote]
      exact Sql.holdsDuplicateClause_of_forall
        (forall_mem_dateTime lacksLetter_of_isDigit (by decide) dt)
  | list items => simp [Value.isList] at h
  | raw sql =>
      rw [Value.literal]
      rfl

/-! ## The text of an insert -/

section Texts

open Sql (holdsDuplicateClause holdsDuplicateClause_cut)

lemma holdsDuplicateClause_tupleSql (texts : List String) :
    holdsDuplicateClause (tupleSql texts).toList =
      texts.any fun text => holdsDuplicateClause text.toList := by
  rw [tupleSql, String.toList_append, String.toList_append]
  show holdsDuplicateClause ('(' :: (", ".intercalate texts).toList ++ [')']) = _
  rw [Sql.holdsDuplicateClause_concat (by decide), Sql.holdsDuplicateClause_cons (by decide),
    Sql.holdsDuplicateClause_joined]

/-- **An insert holds the clause if its table, one of its names or one of its literals does.** -/
theorem holdsDuplicateClause_insertRows (table : Ident) (rows : InsertRows) :
    holdsDuplicateClause (rows.sql table).toList =
      (holdsDuplicateClause table.sql.toList ||
        ((rows.names.any fun name => holdsDuplicateClause name.toList) ||
          rows.rows.any fun literals =>
            literals.any fun literal => holdsDuplicateClause literal.toList)) := by
  have hrows : holdsDuplicateClause (", ".intercalate (rows.rows.map tupleSql)).toList =
      rows.rows.any fun literals =>
        literals.any fun literal => holdsDuplicateClause literal.toList := by
    rw [Sql.holdsDuplicateClause_joined, List.any_map]
    exact congrArg rows.rows.any (funext holdsDuplicateClause_tupleSql)
  have hvalues (text : List Char) :
      holdsDuplicateClause (" VALUES ".toList ++ text) = holdsDuplicateClause text := by
    show holdsDuplicateClause (" VALUE".toList ++ 'S' :: ' ' :: text) = _
    rw [holdsDuplicateClause_cut (by decide), Sql.holdsDuplicateClause_blank (by decide),
      show holdsDuplicateClause " VALUE".toList = false by decide, Bool.false_or]
  have htable : holdsDuplicateClause ("INSERT INTO ".toList ++ table.sql.toList ++ [' ']) =
      holdsDuplicateClause table.sql.toList := by
    rw [Sql.holdsDuplicateClause_concat_blank (by decide), Sql.holdsDuplicateClause_insertInto]
  have hparts : (rows.sql table).toList =
      ("INSERT INTO ".toList ++ table.sql.toList ++ [' ']) ++
        '(' :: ((", ".intercalate rows.names).toList ++
          ')' :: (" VALUES ".toList ++ (", ".intercalate (rows.rows.map tupleSql)).toList)) := by
    -- `String.toList_append` is slow to try on literals, so it is used before they are put in
    have happend (a b c d e f g h : String) : (a ++ b ++ c ++ (d ++ e ++ f) ++ g ++ h).toList =
        (a.toList ++ b.toList ++ c.toList) ++
          (d.toList ++ (e.toList ++ (f.toList ++ (g.toList ++ h.toList)))) := by
      simp only [String.toList_append, List.append_assoc]
    exact happend "INSERT INTO " table.sql " " "(" _ ")" " VALUES " _
  rw [hparts, holdsDuplicateClause_cut (by decide), htable, holdsDuplicateClause_cut (by decide),
    Sql.holdsDuplicateClause_joined, hvalues, hrows]

end Texts

/-! ## Rows -/

/-- Rows that line up are records, whatever they are made from. -/
lemma exists_records_furtherRows {names : List String} {number : Nat}
    {sources : List RecordSource} {lines : List (List String)}
    (h : furtherRows names number sources = .ok lines) :
    ∃ records : List Record, sources.map RecordSource.toRecord = records.map .ok ∧
      furtherRows names number (records.map .record) = .ok lines := by
  induction sources generalizing number lines with
  | nil => exact ⟨[], rfl, h⟩
  | cons source sources ih =>
      obtain ⟨record, hrecord, h⟩ := bind_eq_ok.mp h
      obtain ⟨literals, hliterals, h⟩ := bind_eq_ok.mp h
      obtain ⟨others, hothers, h⟩ := bind_eq_ok.mp h
      obtain rfl := Except.ok.inj h
      obtain ⟨records, hsources, hrecords⟩ := ih hothers
      refine ⟨record :: records, ?_, ?_⟩
      · rw [List.map_cons, List.map_cons, hsources, mapError_eq_ok.mp hrecord]
      · exact bind_eq_ok.mpr
          ⟨record, rfl, bind_eq_ok.mpr ⟨literals, hliterals, bind_eq_ok.mpr ⟨others, hrecords, rfl⟩⟩⟩

lemma exists_records {sources : List RecordSource} {lines : InsertRows}
    (h : InsertRows.ofSources sources = .ok lines) :
    ∃ first others, sources.map RecordSource.toRecord = (first :: others).map .ok ∧
      InsertRows.ofSources ((first :: others).map .record) = .ok lines := by
  cases sources with
  | nil => simp [InsertRows.ofSources] at h
  | cons source sources =>
      obtain ⟨first, hfirst, h⟩ := bind_eq_ok.mp h
      split_ifs at h with hempty
      obtain ⟨columns, hcolumns, h⟩ := bind_eq_ok.mp h
      obtain ⟨literals, hliterals, h⟩ := bind_eq_ok.mp h
      obtain ⟨further, hfurther, h⟩ := bind_eq_ok.mp h
      obtain rfl := Except.ok.inj h
      obtain ⟨others, hsources, hothers⟩ := exists_records_furtherRows hfurther
      refine ⟨first, others, ?_, ?_⟩
      · rw [List.map_cons, List.map_cons, hsources, mapError_eq_ok.mp hfirst]
      · refine bind_eq_ok.mpr ⟨first, rfl, ?_⟩
        rw [if_neg hempty]
        exact bind_eq_ok.mpr ⟨columns, hcolumns, bind_eq_ok.mpr ⟨literals, hliterals,
          bind_eq_ok.mpr ⟨further, hothers, rfl⟩⟩⟩

lemma any_carriesClause {sources : List RecordSource} {records : List Record}
    (h : sources.map RecordSource.toRecord = records.map .ok) :
    sources.any RecordSource.carriesClause = records.any Record.carriesClause := by
  induction sources generalizing records with
  | nil =>
      obtain rfl := List.map_eq_nil_iff.mp h.symm
      rfl
  | cons source sources ih =>
      obtain ⟨record, records, rfl, hrecord, hrecords⟩ := List.map_eq_cons_iff.mp h.symm
      rw [List.any_cons, List.any_cons, ih hrecords.symm, RecordSource.carriesClause, ← hrecord]

/-- **The names and the literals of a row hold what its entries carry.** -/
lemma LinesUp.carriesClause {names : List String} {row : Record} {literals : List String}
    (h : LinesUp names row literals) :
    ((names.any fun name => Sql.holdsDuplicateClause name.toList) ||
      literals.any fun literal => Sql.holdsDuplicateClause literal.toList) =
      row.carriesClause := by
  obtain ⟨cells, hcells, hnodup, hnames, hplaced⟩ := h
  have hcell {entry : String × Value} {cell : String × String} (h : IsCell entry cell) :
      (nameCarriesClause entry.1 || entry.2.carriesClause) =
        (Sql.holdsDuplicateClause cell.1.toList || Sql.holdsDuplicateClause cell.2.toList) := by
    rw [nameCarriesClause, h.name, ← h.literal, Value.sql, String.toList_ofList,
      holdsDuplicateClause_literal h.isList]
    rfl
  rw [Record.carriesClause, Bool.eq_iff_iff, Bool.or_eq_true, List.any_eq_true, List.any_eq_true,
    List.any_eq_true]
  constructor
  · rintro (⟨name, hname, hholds⟩ | ⟨literal, hliteral, hholds⟩)
    · obtain ⟨cell, hmem, rfl⟩ := List.mem_map.mp ((hnames name).mpr hname)
      obtain ⟨entry, hentry, h⟩ := hcells.mem_iff.mp hmem
      exact ⟨entry, hentry, by simp [hcell h, hholds]⟩
    · obtain ⟨name, -, hmem⟩ := exists_mem_of_forall₂ (List.Forall₂.flip hplaced) hliteral
      obtain ⟨entry, hentry, h⟩ := hcells.mem_iff.mp hmem
      exact ⟨entry, hentry, by simp [hcell h, hholds]⟩
  · rintro ⟨entry, hentry, hcarries⟩
    obtain ⟨cell, hmem, h⟩ := exists_mem_of_forall₂ hcells hentry
    have hname : cell.1 ∈ names := (hnames _).mp (Entries.key_mem_of_mem hmem)
    have hholds : (Sql.holdsDuplicateClause cell.1.toList ||
        Sql.holdsDuplicateClause cell.2.toList) = true := by rw [← hcell h]; exact hcarries
    rcases Bool.or_eq_true_iff.mp hholds with hholds | hholds
    · exact .inl ⟨cell.1, hname, hholds⟩
    · obtain ⟨literal, hliteral, hplace⟩ := exists_mem_of_forall₂ hplaced hname
      have hself := (Entries.find?_eq_some_iff hnodup).mpr hmem
      have hsame := (Entries.find?_eq_some_iff hnodup).mpr hplace
      obtain rfl := Option.some.inj (hself.symm.trans hsame)
      exact .inr ⟨cell.2, hliteral, hholds⟩

lemma carriesClause_rows {names : List String} {rows : List Record} {lines : List (List String)}
    (h : List.Forall₂ (LinesUp names) rows lines) :
    ((names.any fun name => Sql.holdsDuplicateClause name.toList) ||
      lines.any fun literals =>
        literals.any fun literal => Sql.holdsDuplicateClause literal.toList) =
      ((names.any fun name => Sql.holdsDuplicateClause name.toList) ||
        rows.any Record.carriesClause) := by
  induction h with
  | nil => rfl
  | cons hfirst _ ih =>
      rw [List.any_cons, List.any_cons, ← hfirst.carriesClause]
      cases hnames : names.any fun name => Sql.holdsDuplicateClause name.toList with
      | true => rfl
      | false =>
          rw [hnames] at ih
          simp only [Bool.false_or] at ih ⊢
          rw [ih]

/-! ## Plain inserts -/

/-- **A plain insert holds the clause if its table or its rows carry it.** -/
lemma Statement.holdsDuplicateClause_of_insert {table : Ident} {rows : List RecordSource}
    {sql : String} (h : Statement.insert table rows .plain = .ok sql) :
    Sql.holdsDuplicateClause sql.toList = insertCarriesClause table rows := by
  obtain ⟨lines, hlines, h⟩ := bind_eq_ok.mp h
  obtain rfl := Except.ok.inj h
  obtain ⟨first, others, hrecords, hsources⟩ := exists_records hlines
  obtain ⟨-, hnames, hrows⟩ := ofSources_eq_ok.mp hsources
  rw [holdsDuplicateClause_insertRows, insertCarriesClause, any_carriesClause hrecords, hnames,
    carriesClause_rows hrows]
  -- The names are those of the first row, so the row carries what they hold.
  obtain ⟨literals, -, hfirst⟩ := exists_mem_of_forall₂ hrows List.mem_cons_self
  rw [List.any_cons, ← hfirst.carriesClause]
  simp only [Bool.or_assoc, Bool.or_self_left]

/-- **When a plain insert is taken for an upsert**: exactly if the name of its table, the quoted
name of a column, the escaped text of a value or a raw value holds the words of the clause.  Then
it passes the guard of upserts; otherwise it is an insert and does not. -/
theorem Statement.classify_insert_plain (table : Ident) (rows : List RecordSource) (sql : String)
    (h : Statement.insert table rows .plain = .ok sql) :
    (Sql.classify sql = if insertCarriesClause table rows then .upsert else .insert) ∧
      (Sql.validate sql .upsert = .ok () ↔ insertCarriesClause table rows = true) := by
  have hkind := Statement.classify_of_insert h
  rw [Statement.holdsDuplicateClause_of_insert h] at hkind
  refine ⟨hkind, ?_⟩
  rw [Sql.validate, hkind]
  cases insertCarriesClause table rows <;> simp [StatementKind.isAcceptedAs]

/-- In the first row an escaped tab stands between two words, which is no blank; in the second there
are only spaces between them. -/
theorem Statement.classify_insert_plain_of_notes :
    let table : Ident := ⟨[.bare "notes"]⟩
    let harmless : RecordSource := .record ⟨[("a", .text "on duplicate\tkey update")]⟩
    let telling : RecordSource := .record ⟨[("a", .text "see: On Duplicate  key update!")]⟩
    let sql := "INSERT INTO notes (`a`) VALUES ('on duplicate\\tkey update')"
    let sql' := "INSERT INTO notes (`a`) VALUES ('on duplicate\\tkey update'), " ++
      "('see: On Duplicate  key update!')"
    Statement.insert table [harmless] .plain = .ok sql ∧ Sql.classify sql = .insert ∧
      Statement.insert table [harmless, telling] .plain = .ok sql' ∧
      Sql.validate sql' .upsert = .ok () := by
  intro table harmless telling sql sql'
  have hsql : Statement.insert table [harmless] .plain = .ok sql :=
    toOption_eq_some.mp (by decide +kernel)
  have hsql' : Statement.insert table [harmless, telling] .plain = .ok sql' :=
    toOption_eq_some.mp (by decide +kernel)
  have hkind := (Statement.classify_insert_plain table [harmless] sql hsql).1
  have hcarries : insertCarriesClause table [harmless] = false := by decide +kernel
  rw [hcarries] at hkind
  exact ⟨hsql, hkind, hsql',
    (Statement.classify_insert_plain table [harmless, telling] sql' hsql').2.mpr (by decide +kernel)⟩

/-- Rows without raw SQL do not suffice for a plain insert to be an insert. -/
theorem Statement.insert_plain_taken_for_upsert :
    ¬∀ (table : Ident) (rows : List RecordSource) (sql : String),
      (rows.all RecordSource.isRawFree) = true → Statement.insert table rows .plain = .ok sql →
        Sql.classify sql = .insert ∧ Sql.validate sql .upsert ≠ .ok () := by
  intro h
  let rows : List RecordSource := [.record ⟨[("a", .text "ON DUPLICATE KEY UPDATE")]⟩]
  have hbuilt : Statement.insert ⟨[.bare "t"]⟩ rows .plain =
      .ok "INSERT INTO t (`a`) VALUES ('ON DUPLICATE KEY UPDATE')" :=
    toOption_eq_some.mp (by decide +kernel)
  have hkind := (h _ rows _ (by decide) hbuilt).1
  exact absurd hkind (by decide +kernel)

end SqlAccess
