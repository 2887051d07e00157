import SqlAccess.Proofs.Statement.Alignment
import SqlAccess.Proofs.Statement.Conditions

/-!
# What updates set

An update and an insert of one row write the same record, and both write it cell by cell: the quoted
name of a column and a literal for each entry.  So they refuse the same names and the same values.

They differ in one thing.  An insert lines its cells up under columns of which each has one place,
and so refuses a record in which two names stand for one column.  An update writes its cells as they
come and sets such a column twice, and the value that is written first is lost.

* `assignmentsOf_eq_ok` — the assignments are the cells.
* **`Statement.insertOne_iff_update`** — a record can be inserted exactly if it can be set by an
  update and no two of its names stand for one column.
-/

namespace SqlAccess

/-- The assignment of a cell. -/
def assignmentSql (cell : String × String) : String :=
  cell.1 ++ " = " ++ cell.2

/-- **Assignments are cells**, one for each entry and in their order. -/
lemma assignmentsOf_eq_ok {entries : Entries Value} {assignments : List String} :
    assignmentsOf entries = .ok assignments ↔
      ∃ cells, AreCells entries cells ∧ assignments = cells.map assignmentSql := by
  induction entries generalizing assignments with
  | nil =>
      constructor
      · intro h
        obtain rfl := Except.ok.inj h
        exact ⟨[], .nil, rfl⟩
      · rintro ⟨cells, hcells, rfl⟩
        cases hcells
        rfl
  | cons entry entries ih =>
      obtain ⟨key, value⟩ := entry
      constructor
      · intro h
        obtain ⟨column, hcolumn, h⟩ := bind_eq_ok.mp h
        obtain ⟨literal, hliteral, h⟩ := bind_eq_ok.mp h
        obtain ⟨others, hothers, h⟩ := bind_eq_ok.mp h
        obtain rfl := Except.ok.inj h
        obtain ⟨cells, hcells, rfl⟩ := ih.mp hothers
        obtain ⟨hlist, hliteral⟩ := writtenValue_eq_ok.mp hliteral
        have hname := quotedName?_eq_some_iff.mpr ⟨column, mapError_eq_ok.mp hcolumn, rfl⟩
        exact ⟨(column.quotedSql, literal) :: cells, .cons ⟨hname, hlist, hliteral⟩ hcells, rfl⟩
      · rintro ⟨_, hcells, rfl⟩
        cases hcells with
        | @cons _ cell _ cells hcell hcells =>
            obtain ⟨column, hcolumn, hname⟩ := quotedName?_eq_some_iff.mp hcell.name
            refine bind_eq_ok.mpr ⟨column, mapError_eq_ok.mpr hcolumn, ?_⟩
            refine bind_eq_ok.mpr
              ⟨cell.2, writtenValue_eq_ok.mpr ⟨hcell.isList, hcell.literal⟩, ?_⟩
            refine bind_eq_ok.mpr ⟨_, ih.mpr ⟨cells, hcells, rfl⟩, ?_⟩
            rw [hname, List.map_cons, assignmentSql]

namespace Statement

variable {table : Ident} {args : RecordSource} {r : Record}

/-- Of what a caller passes, the record counts. -/
lemma insertOne_of_toRecord (h : args.toRecord = .ok r) (mode : InsertMode) :
    insertOne table args mode = insertOne table (.record r) mode := by
  simp only [insertOne, insert, InsertRows.ofSources, statementRecord, h]
  rfl

/-- A record can be inserted if it has cells and no two of them have one name. -/
lemma exists_insertOne_iff :
    (∃ sql, insertOne table (.record r) .plain = .ok sql) ↔
      r.entries ≠ [] ∧ (∃ cells, AreCells r.entries cells) ∧ r.quotedNames.Nodup := by
  have hrow : (∃ lines, List.Forall₂ (LinesUp r.quotedNames) [r] lines) ↔
      (∃ cells, AreCells r.entries cells) ∧ r.quotedNames.Nodup := by
    rw [exists_forall₂_iff, List.forall_mem_singleton, exists_linesUp, exists_areCells]
    -- A row that is alone names the columns that it is asked for.
    simp only [implies_true, true_and]
    tauto
  have hinsert : (∃ sql, insert table ([r].map .record) .plain = .ok sql) ↔ CanLineUp [r] :=
    exists_insert_plain
  rw [← hrow, ← canLineUp_cons]
  exact hinsert

/-- A record can be set by an update if it has cells, where the filter has a condition. -/
lemma exists_update_iff {source : FilterSource} {f : Filter} {condition : String}
    (hsource : source.toFilter = .ok f) (hcondition : f.whereSql? = .ok (some condition))
    (hargs : args.toRecord = .ok r) :
    (∃ sql, update table source args = .ok sql) ↔
      r.entries ≠ [] ∧ ∃ cells, AreCells r.entries cells := by
  constructor
  · rintro ⟨sql, h⟩
    obtain ⟨_, same, assignments, _, -, hsame, hempty, hassignments, -⟩ := update_eq_ok.mp h
    obtain rfl := Except.ok.inj (hargs.symm.trans hsame)
    obtain ⟨cells, hcells, -⟩ := assignmentsOf_eq_ok.mp hassignments
    exact ⟨by simpa [Record.isEmpty] using hempty, cells, hcells⟩
  · rintro ⟨hne, cells, hcells⟩
    have hempty : r.isEmpty = false := by simpa [Record.isEmpty] using hne
    exact ⟨_, update_eq_ok.mpr ⟨f, r, _, condition, hsource, hargs, hempty,
      assignmentsOf_eq_ok.mpr ⟨cells, hcells, rfl⟩, hcondition, rfl⟩⟩

/-- **Inserts and updates take the same records but for columns that are named twice.**  Where the
filter has a condition, a record can be inserted exactly if it can be set by an update and its names
stand for different columns.  An update sets one column for each name of the record, in order, and
so sets a column twice where two names stand for it. -/
theorem insertOne_iff_update (table : Ident) (source : FilterSource) (args : RecordSource)
    {f : Filter} {r : Record} {condition? : Option String} (hsource : source.toFilter = .ok f)
    (hne : f.isEmpty = false) (hcondition : f.whereSql? = .ok condition?)
    (hargs : args.toRecord = .ok r) :
    ((∃ sql, insertOne table args .plain = .ok sql) ↔
      (∃ sql, update table source args = .ok sql) ∧ r.quotedNames.Nodup) ∧
    ∀ sql, update table source args = .ok sql → ∃ condition cells,
      condition? = some condition ∧ AreCells r.entries cells ∧ cells.keys = r.quotedNames ∧
        sql = "UPDATE " ++ table.sql ++ " SET " ++ ", ".intercalate (cells.map assignmentSql) ++
          " WHERE " ++ condition := by
  constructor
  · obtain ⟨condition, rfl⟩ : ∃ condition, condition? = some condition := by
      cases condition? with
      | none =>
          have hempty := whereSql?_eq_none_iff.mp hcondition
          cases hne.symm.trans hempty
      | some condition => exact ⟨condition, rfl⟩
    rw [insertOne_of_toRecord hargs, exists_insertOne_iff,
      exists_update_iff hsource hcondition hargs, and_assoc]
  · intro sql h
    obtain ⟨g, s, assignments, condition, hg, hs, -, hassignments, hwhere, rfl⟩ :=
      update_eq_ok.mp h
    obtain rfl := Except.ok.inj (hsource.symm.trans hg)
    obtain rfl := Except.ok.inj (hargs.symm.trans hs)
    obtain ⟨cells, hcells, rfl⟩ := assignmentsOf_eq_ok.mp hassignments
    exact ⟨condition, cells, Except.ok.inj (hcondition.symm.trans hwhere), hcells,
      hcells.keys.symm, rfl⟩

/-- A record that names a column in two ways: it is not inserted, and an update sets the column
twice. -/
theorem insertOne_iff_update_of_spellings :
    let r : Record := ⟨[("lastName", .text "Roe"), ("last_name", .text "Doe")]⟩
    let f := Filter.empty.eq "id" (.int 1)
    let table : Ident := ⟨[.bare "users"]⟩
    update table f r =
        .ok "UPDATE users SET `last_name` = 'Roe', `last_name` = 'Doe' WHERE (id = 1)" ∧
      r.quotedNames = ["`last_name`", "`last_name`"] ∧
      ¬∃ sql, insertOne table r .plain = .ok sql := by
  intro r f table
  have hcondition : f.whereSql? = .ok (some "(id = 1)") := toOption_eq_some.mp (by decide +kernel)
  have hnames : r.quotedNames = ["`last_name`", "`last_name`"] := by decide +kernel
  have hiff := (insertOne_iff_update table f r rfl rfl hcondition rfl).1
  refine ⟨toOption_eq_some.mp (by decide +kernel), hnames, fun hinsert => ?_⟩
  have hnodup := (hiff.mp hinsert).2
  rw [hnames] at hnodup
  exact absurd hnodup (by decide)

end Statement

end SqlAccess
