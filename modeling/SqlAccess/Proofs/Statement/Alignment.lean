import Mathlib.Data.List.Perm.Basic
import SqlAccess.Proofs.Entries
import SqlAccess.Proofs.Success
import SqlAccess.Statement.Insert

/-!
# Rows line up under the columns of the first

The literals of an inserting statement stand under the right columns, in whatever order the rows
name them and however they spell them.  **`Statement.insert_plain_iff`** says when rows can be
inserted together (`CanLineUp`), and that every literal is that of the value which its row holds
under the name of the literal's place.

A row is seen as its *cells*, the quoted name and the literal of each of its entries.  What the
cells have to satisfy for the row to line up is `LinesUp`; it mentions the cells only as a set, so
the order of the entries does not matter (`LinesUp.perm`).
-/

namespace SqlAccess

/-! ## Cells -/

/-- The quoted name of the column that a name stands for, if it stands for one. -/
def quotedName? (key : String) : Option String :=
  (Column.normalize key).toOption.map Column.quotedSql

/-- The quoted names of the columns of a record, in order. -/
def Record.quotedNames (r : Record) : List String := r.keys.filterMap quotedName?

/-- What an entry of a row is written as: the quoted name of its column, and a literal. -/
structure IsCell (entry : String × Value) (cell : String × String) : Prop where
  name : quotedName? entry.1 = some cell.1
  isList : entry.2.isList = false
  literal : entry.2.sql = cell.2

/-- Whether cells are what the entries of a row are written as, in order. -/
abbrev AreCells : Entries Value → Entries String → Prop := List.Forall₂ IsCell

lemma quotedName?_eq_some_iff {key name : String} :
    quotedName? key = some name ↔
      ∃ column, Column.normalize key = .ok column ∧ column.quotedSql = name := by
  unfold quotedName?
  cases Column.normalize key <;> simp [Except.toOption]

lemma quotedName?_isSome {key : String} :
    (∃ name, quotedName? key = some name) ↔ ∃ column, Column.normalize key = .ok column := by
  simp only [quotedName?_eq_some_iff]
  exact ⟨fun ⟨_, column, h, _⟩ => ⟨column, h⟩, fun ⟨column, h⟩ => ⟨_, column, h, rfl⟩⟩

lemma writtenValue_eq_ok {key : String} {value : Value} {literal : String} :
    writtenValue key value = .ok literal ↔ value.isList = false ∧ value.sql = literal := by
  unfold writtenValue
  cases value.isList <;> simp

/-- **An entry has a cell** if its name stands for a column and its value is no list. -/
lemma exists_cell {key : String} {value : Value} :
    (∃ cell, IsCell (key, value) cell) ↔
      (∃ column, Column.normalize key = .ok column) ∧ value.isList = false := by
  rw [← quotedName?_isSome]
  constructor
  · rintro ⟨⟨name, literal⟩, hname, hlist, -⟩
    exact ⟨⟨name, hname⟩, hlist⟩
  · rintro ⟨⟨name, hname⟩, hlist⟩
    exact ⟨(name, value.sql), hname, hlist, rfl⟩

/-- A row has cells if its names stand for columns and its values are no lists. -/
lemma exists_areCells {row : Record} :
    (∃ cells, AreCells row.entries cells) ↔
      (∀ key ∈ row.keys, ∃ column, Column.normalize key = .ok column) ∧
        ∀ value ∈ row.values, value.isList = false := by
  rw [exists_forall₂_iff, Record.keys, Record.values, Entries.keys, List.forall_mem_map,
    List.forall_mem_map, ← forall₂_and]
  exact forall₂_congr fun entry _ => exists_cell

/-- The names of the cells are the quoted names of the row. -/
lemma AreCells.keys {r : Record} {cells : Entries String} (h : AreCells r.entries cells) :
    r.quotedNames = cells.keys := by
  show (r.entries.map Prod.fst).filterMap quotedName? = cells.map Prod.fst
  generalize r.entries = entries at h
  induction h with
  | nil => rfl
  | cons hcell _ ih =>
      rw [List.map_cons, List.map_cons, List.filterMap_cons_some hcell.name, ih]

lemma IsCell.unique {entry : String × Value} {cell other : String × String}
    (h : IsCell entry cell) (hother : IsCell entry other) : cell = other := by
  have hname := h.name.symm.trans hother.name
  exact Prod.ext (Option.some.inj hname) (h.literal.symm.trans hother.literal)

/-- A literal stands under a name if an entry is written so. -/
lemma AreCells.mem_iff {entries : Entries Value} {cells : Entries String}
    (h : AreCells entries cells) {cell : String × String} :
    cell ∈ cells ↔ ∃ entry ∈ entries, IsCell entry cell := by
  induction h with
  | nil => simp
  | @cons entry first _ _ hfirst _ ih =>
      rw [List.mem_cons, ih]
      constructor
      · rintro (rfl | ⟨later, hmem, hcell⟩)
        · exact ⟨entry, List.mem_cons_self, hfirst⟩
        · exact ⟨later, List.mem_cons_of_mem entry hmem, hcell⟩
      · rintro ⟨later, hmem, hcell⟩
        rcases List.mem_cons.mp hmem with rfl | hmem
        · exact .inl (hcell.unique hfirst)
        · exact .inr ⟨later, hmem, hcell⟩

/-! ## One row -/

/-- A row lines up under names, with these literals: its cells are named as they are, each once, and
the literals are those of the cells, in the order of the names. -/
def LinesUp (names : List String) (row : Record) (literals : List String) : Prop :=
  ∃ cells, AreCells row.entries cells ∧ cells.keys.Nodup ∧
    (∀ name, name ∈ cells.keys ↔ name ∈ names) ∧
    List.Forall₂ (fun name literal => (name, literal) ∈ cells) names literals

/-- Setting the columns of a row succeeds if its cells are named as the columns and no name comes
twice, and adds the cells to those that were set before. -/
lemma setColumns_eq_ok {names : List String} {row : Nat} {before after : Entries String}
    {entries : Entries Value} :
    setColumns names row before entries = .ok after ↔
      ∃ cells, AreCells entries cells ∧ after = before ++ cells ∧
        (∀ name ∈ cells.keys, name ∈ names ∧ name ∉ before.keys) ∧ cells.keys.Nodup := by
  induction entries generalizing before with
  | nil =>
      constructor
      · intro h
        obtain rfl := Except.ok.inj h
        exact ⟨[], .nil, by simp, by simp [Entries.keys], by simp [Entries.keys]⟩
      · rintro ⟨cells, hcells, rfl, -⟩
        cases hcells
        rw [List.append_nil]
        rfl
  | cons entry entries ih =>
      obtain ⟨key, value⟩ := entry
      constructor
      · intro h
        obtain ⟨column, hcolumn, h⟩ := bind_eq_ok.mp h
        simp only at h
        split_ifs at h with hforeign hrepeated
        obtain ⟨literal, hliteral, h⟩ := bind_eq_ok.mp h
        obtain ⟨cells, hcells, rfl, hnames, hnodup⟩ := ih.mp h
        obtain ⟨hlist, hliteral⟩ := writtenValue_eq_ok.mp hliteral
        have hname := quotedName?_eq_some_iff.mpr ⟨column, mapError_eq_ok.mp hcolumn, rfl⟩
        refine ⟨(column.quotedSql, literal) :: cells, .cons ⟨hname, hlist, hliteral⟩ hcells,
          by simp, ?_, ?_⟩
        · refine List.forall_mem_cons.mpr ⟨⟨by simpa using hforeign, by simpa using hrepeated⟩,
            fun name hmem => ?_⟩
          obtain ⟨hknown, hnew⟩ := hnames name hmem
          exact ⟨hknown, fun hbefore => hnew (by simp_all [Entries.keys])⟩
        · refine List.nodup_cons.mpr ⟨fun hmem => ?_, hnodup⟩
          exact (hnames _ hmem).2 (by simp [Entries.keys])
      · rintro ⟨cells, hcells, rfl, hnames, hnodup⟩
        cases hcells with
        | @cons _ cell _ cells hcell hcells =>
            obtain ⟨name, literal⟩ := cell
            obtain ⟨column, hcolumn, hname⟩ := quotedName?_eq_some_iff.mp hcell.name
            obtain ⟨hfirst, hothers⟩ := List.forall_mem_cons.mp hnames
            obtain ⟨hnew, hnodup⟩ := List.nodup_cons.mp hnodup
            refine bind_eq_ok.mpr ⟨column, mapError_eq_ok.mpr hcolumn, ?_⟩
            have hname : column.quotedSql = name := hname
            have hknown : names.contains name = true := by simpa using hfirst.1
            have hunset : before.keys.contains name = false := by simpa using hfirst.2
            simp only [hname, hknown, hunset]
            refine bind_eq_ok.mpr
              ⟨literal, writtenValue_eq_ok.mpr ⟨hcell.isList, hcell.literal⟩, ?_⟩
            refine ih.mpr ⟨cells, hcells, by simp, fun other hmem => ?_, hnodup⟩
            refine ⟨(hothers other hmem).1, fun hbefore => ?_⟩
            have hother : other ∈ before.keys ∨ other = name := by
              simpa [Entries.keys, or_comm] using hbefore
            rcases hother with hold | rfl
            · exact (hothers other hmem).2 hold
            · exact hnew hmem

/-- Literals are put in order if each name has one. -/
lemma literalsInOrder_eq_ok {row : Nat} {set : Entries String} {names literals : List String} :
    literalsInOrder row set names = .ok literals ↔
      List.Forall₂ (fun name literal => set.find? name = some literal) names literals := by
  induction names generalizing literals with
  | nil => simp [literalsInOrder, eq_comm]
  | cons name names ih =>
      rw [literalsInOrder, List.forall₂_cons_left_iff]
      cases hfind : set.find? name with
      | none => simp
      | some literal =>
          rw [map_eq_ok]
          constructor
          · rintro ⟨others, hothers, rfl⟩
            exact ⟨literal, others, rfl, ih.mp hothers, rfl⟩
          · rintro ⟨first, others, hfirst, hothers, rfl⟩
            obtain rfl := Option.some.inj hfirst
            exact ⟨others, ih.mpr hothers, rfl⟩

/-- **A row is written if it lines up**, whatever its number. -/
lemma rowLiterals_eq_ok {names : List String} {number : Nat} {row : Record}
    {literals : List String} :
    rowLiterals names number row = .ok literals ↔ LinesUp names row literals := by
  constructor
  · intro h
    obtain ⟨cells, hset, hliterals⟩ := bind_eq_ok.mp h
    obtain ⟨_, hcells, rfl, hnames, hnodup⟩ := setColumns_eq_ok.mp hset
    have hplaced : List.Forall₂ (fun name literal => (name, literal) ∈ cells) names literals :=
      (literalsInOrder_eq_ok.mp hliterals).imp fun _ _ => Entries.mem_of_find?
    refine ⟨cells, hcells, hnodup, fun name => ⟨fun hmem => (hnames name hmem).1, fun hmem => ?_⟩,
      hplaced⟩
    obtain ⟨_, hcell⟩ := exists_forall₂_iff.mp ⟨_, hplaced⟩ name hmem
    exact Entries.key_mem_of_mem hcell
  · rintro ⟨cells, hcells, hnodup, hnames, hplaced⟩
    refine bind_eq_ok.mpr ⟨cells, ?_, ?_⟩
    · refine setColumns_eq_ok.mpr ⟨cells, hcells, rfl, fun name hmem => ?_, hnodup⟩
      exact ⟨(hnames name).mp hmem, by simp [Entries.keys]⟩
    · exact literalsInOrder_eq_ok.mpr
        (hplaced.imp fun _ _ => (Entries.find?_eq_some_iff hnodup).mpr)

/-- **When a row lines up**: its names stand for columns, each for another one and together for
those that are asked for, and its values are no lists. -/
lemma exists_linesUp {names : List String} {row : Record} :
    (∃ literals, LinesUp names row literals) ↔
      (∀ key ∈ row.keys, ∃ column, Column.normalize key = .ok column) ∧ row.quotedNames.Nodup ∧
        (∀ name, name ∈ row.quotedNames ↔ name ∈ names) ∧
        ∀ value ∈ row.values, value.isList = false := by
  constructor
  · rintro ⟨_, cells, hcells, hnodup, hnames, -⟩
    obtain ⟨hcolumns, hlists⟩ := exists_areCells.mp ⟨cells, hcells⟩
    rw [hcells.keys]
    exact ⟨hcolumns, hnodup, hnames, hlists⟩
  · rintro ⟨hcolumns, hnodup, hnames, hlists⟩
    obtain ⟨cells, hcells⟩ := exists_areCells.mpr ⟨hcolumns, hlists⟩
    rw [hcells.keys] at hnodup hnames
    have hplaced : ∀ name ∈ names, ∃ literal, (name, literal) ∈ cells := by
      intro name hmem
      obtain ⟨⟨_, literal⟩, hcell, rfl⟩ := List.mem_map.mp ((hnames name).mpr hmem)
      exact ⟨literal, hcell⟩
    obtain ⟨literals, hliterals⟩ := exists_forall₂_iff.mpr hplaced
    exact ⟨literals, cells, hcells, hnodup, hnames, hliterals⟩

/-- The literal in the place of a name is that of the value under the name. -/
lemma LinesUp.placed {names : List String} {row : Record} {literals : List String}
    (h : LinesUp names row literals) :
    List.Forall₂ (fun name literal => ∃ key value, (key, value) ∈ row.entries ∧
      quotedName? key = some name ∧ literal = value.sql) names literals := by
  obtain ⟨cells, hcells, -, -, hplaced⟩ := h
  refine hplaced.imp fun name literal hmem => ?_
  obtain ⟨⟨key, value⟩, hentry, hcell⟩ := hcells.mem_iff.mp hmem
  exact ⟨key, value, hentry, hcell.name, hcell.literal.symm⟩

/-- **The order of the entries of a row does not matter.** -/
lemma LinesUp.perm {names : List String} {row other : Record} {literals : List String}
    (h : LinesUp names row literals) (hperm : row.entries.Perm other.entries) :
    LinesUp names other literals := by
  obtain ⟨cells, hcells, hnodup, hnames, hplaced⟩ := h
  obtain ⟨moved, hmoved, hsame⟩ := List.perm_comp_forall₂ hperm.symm hcells
  have hkeys : (Entries.keys moved).Perm cells.keys := hsame.map Prod.fst
  refine ⟨moved, hmoved, hkeys.nodup_iff.mpr hnodup, fun name => ?_, ?_⟩
  · rw [hkeys.mem_iff, hnames]
  · exact hplaced.imp fun _ _ => hsame.mem_iff.mpr

lemma LinesUp.perm_all {names : List String} {rows others : List Record}
    {lines : List (List String)} (h : List.Forall₂ (LinesUp names) rows lines)
    (hperm : List.Forall₂ (fun row other => row.entries.Perm other.entries) rows others) :
    List.Forall₂ (LinesUp names) others lines := by
  induction hperm generalizing lines with
  | nil => exact h
  | cons hfirst _ ih =>
      obtain ⟨literals, further, hliterals, hfurther, rfl⟩ := List.forall₂_cons_left_iff.mp h
      exact .cons (hliterals.perm hfirst) (ih hfurther)

/-! ## All rows -/

lemma statementColumns_eq_ok {keys : List String} {columns : List Column} :
    statementColumns keys = .ok columns ↔
      List.Forall₂ (fun key column => Column.normalize key = .ok column) keys columns := by
  rw [members_eq_ok statementColumn statementColumns rfl fun _ _ => rfl]
  simp only [statementColumn, mapError_eq_ok]

/-- The names of the columns are the quoted names of the row. -/
lemma quotedNames_of_columns {row : Record} {columns : List Column}
    (h : List.Forall₂ (fun key column => Column.normalize key = .ok column) row.keys columns) :
    columns.map Column.quotedSql = row.quotedNames := by
  unfold Record.quotedNames
  generalize row.keys = keys at h
  induction h with
  | nil => rfl
  | cons hfirst _ ih =>
      have hname := quotedName?_eq_some_iff.mpr ⟨_, hfirst, rfl⟩
      rw [List.filterMap_cons_some hname, List.map_cons, ih]

lemma furtherRows_eq_ok {names : List String} {number : Nat} {rows : List Record}
    {lines : List (List String)} :
    furtherRows names number (rows.map .record) = .ok lines ↔
      List.Forall₂ (LinesUp names) rows lines := by
  induction rows generalizing number lines with
  | nil => simp [furtherRows, eq_comm]
  | cons row rows ih =>
      rw [List.map_cons, furtherRows, List.forall₂_cons_left_iff]
      constructor
      · intro h
        obtain ⟨_, hrecord, h⟩ := bind_eq_ok.mp h
        obtain rfl := Except.ok.inj hrecord
        obtain ⟨literals, hliterals, h⟩ := bind_eq_ok.mp h
        obtain ⟨others, hothers, h⟩ := bind_eq_ok.mp h
        obtain rfl := Except.ok.inj h
        exact ⟨literals, others, rowLiterals_eq_ok.mp hliterals, ih.mp hothers, rfl⟩
      · rintro ⟨literals, others, hliterals, hothers, rfl⟩
        exact bind_eq_ok.mpr ⟨row, rfl, bind_eq_ok.mpr ⟨literals, rowLiterals_eq_ok.mpr hliterals,
          bind_eq_ok.mpr ⟨others, ih.mpr hothers, rfl⟩⟩⟩

/-- **Rows line up** if the first has columns and all of them line up under its names. -/
lemma ofSources_eq_ok {first : Record} {others : List Record} {lines : InsertRows} :
    InsertRows.ofSources ((first :: others).map .record) = .ok lines ↔
      first.entries ≠ [] ∧ lines.names = first.quotedNames ∧
        List.Forall₂ (LinesUp first.quotedNames) (first :: others) lines.rows := by
  rw [List.map_cons, InsertRows.ofSources]
  constructor
  · intro h
    obtain ⟨_, hrecord, h⟩ := bind_eq_ok.mp h
    obtain rfl := Except.ok.inj hrecord
    split_ifs at h with hempty
    obtain ⟨columns, hcolumns, h⟩ := bind_eq_ok.mp h
    obtain ⟨literals, hliterals, h⟩ := bind_eq_ok.mp h
    obtain ⟨further, hfurther, h⟩ := bind_eq_ok.mp h
    obtain rfl := Except.ok.inj h
    have hnames := quotedNames_of_columns (statementColumns_eq_ok.mp hcolumns)
    rw [hnames] at hliterals hfurther
    exact ⟨by simpa [Record.isEmpty] using hempty, hnames,
      .cons (rowLiterals_eq_ok.mp hliterals) (furtherRows_eq_ok.mp hfurther)⟩
  · rintro ⟨hempty, hnames, hrows⟩
    obtain ⟨names, rows⟩ := lines
    obtain rfl : names = first.quotedNames := hnames
    obtain ⟨literals, further, hliterals, hfurther, rfl⟩ := List.forall₂_cons_left_iff.mp hrows
    obtain ⟨hkeys, -⟩ := exists_linesUp.mp ⟨literals, hliterals⟩
    obtain ⟨columns, hcolumns⟩ := exists_forall₂_iff.mpr hkeys
    refine bind_eq_ok.mpr ⟨first, rfl, ?_⟩
    rw [if_neg (by simpa [Record.isEmpty] using hempty)]
    refine bind_eq_ok.mpr ⟨columns, statementColumns_eq_ok.mpr hcolumns, ?_⟩
    rw [quotedNames_of_columns hcolumns]
    exact bind_eq_ok.mpr ⟨literals, rowLiterals_eq_ok.mpr hliterals,
      bind_eq_ok.mpr ⟨further, furtherRows_eq_ok.mpr hfurther, rfl⟩⟩

/-- Whether rows can be inserted together. -/
structure CanLineUp (rows : List Record) : Prop where
  ne_nil : rows ≠ []
  first_ne_nil : ∀ first ∈ rows.head?, first.entries ≠ []
  columns : ∀ row ∈ rows, ∀ key ∈ row.keys, ∃ column, Column.normalize key = .ok column
  nodup : ∀ row ∈ rows, row.quotedNames.Nodup
  sameNames : ∀ first ∈ rows.head?, ∀ row ∈ rows, ∀ name,
    name ∈ row.quotedNames ↔ name ∈ first.quotedNames
  noLists : ∀ row ∈ rows, ∀ value ∈ row.values, value.isList = false

/-- Rows can be inserted together exactly if all of them line up under the names of the first. -/
lemma canLineUp_cons {first : Record} {others : List Record} :
    CanLineUp (first :: others) ↔ first.entries ≠ [] ∧
      ∃ lines, List.Forall₂ (LinesUp first.quotedNames) (first :: others) lines := by
  rw [exists_forall₂_iff]
  simp only [exists_linesUp]
  constructor
  · intro h
    exact ⟨h.first_ne_nil first rfl, fun row hrow => ⟨h.columns row hrow, h.nodup row hrow,
      h.sameNames first rfl row hrow, h.noLists row hrow⟩⟩
  · rintro ⟨hfirst, hrows⟩
    exact
      { ne_nil := by simp
        first_ne_nil := by simpa using hfirst
        columns := fun row hrow => (hrows row hrow).1
        nodup := fun row hrow => (hrows row hrow).2.1
        sameNames := by simpa using fun row hrow => (hrows row hrow).2.2.1
        noLists := fun row hrow => (hrows row hrow).2.2.2 }

/-! ## Statements -/

/-- A plain insert is built from the lines of its rows. -/
lemma Statement.insert_plain_eq_ok {table : Ident} {rows : List Record} {sql : String} :
    Statement.insert table (rows.map .record) .plain = .ok sql ↔
      ∃ first others lines, rows = first :: others ∧ first.entries ≠ [] ∧
        List.Forall₂ (LinesUp first.quotedNames) rows lines ∧
        sql = InsertRows.sql table ⟨first.quotedNames, lines⟩ := by
  rw [Statement.insert, bind_eq_ok]
  constructor
  · rintro ⟨lines, hlines, h⟩
    obtain rfl := Except.ok.inj h
    cases rows with
    | nil => simp [InsertRows.ofSources] at hlines
    | cons first others =>
        obtain ⟨hempty, hnames, hrows⟩ := ofSources_eq_ok.mp hlines
        exact ⟨first, others, lines.rows, rfl, hempty, hrows, by rw [← hnames]⟩
  · rintro ⟨first, others, lines, rfl, hempty, hrows, rfl⟩
    exact ⟨⟨first.quotedNames, lines⟩, ofSources_eq_ok.mpr ⟨hempty, rfl, hrows⟩, rfl⟩

/-- Rows can be inserted exactly if they line up. -/
lemma Statement.exists_insert_plain {table : Ident} {rows : List Record} :
    (∃ sql, Statement.insert table (rows.map .record) .plain = .ok sql) ↔ CanLineUp rows := by
  cases rows with
  | nil =>
      refine ⟨fun ⟨_, hsql⟩ => ?_, fun h => absurd rfl h.ne_nil⟩
      obtain ⟨_, _, _, hrows, -⟩ := insert_plain_eq_ok.mp hsql
      cases hrows
  | cons first others =>
      rw [canLineUp_cons]
      constructor
      · rintro ⟨sql, hsql⟩
        obtain ⟨_, _, lines, hrows, hempty, hlines, -⟩ := insert_plain_eq_ok.mp hsql
        obtain ⟨rfl, rfl⟩ := List.cons.inj hrows
        exact ⟨hempty, lines, hlines⟩
      · rintro ⟨hempty, lines, hlines⟩
        exact ⟨_, insert_plain_eq_ok.mpr ⟨first, others, lines, rfl, hempty, hlines, rfl⟩⟩

/-- The entries of all rows but the first may be listed in another order. -/
lemma Statement.insert_plain_of_perm {table : Ident} {first : Record} {others moved : List Record}
    {sql : String}
    (h : Statement.insert table ((first :: others).map .record) .plain = .ok sql)
    (hmoved : List.Forall₂ (fun row other => row.entries.Perm other.entries) others moved) :
    Statement.insert table ((first :: moved).map .record) .plain = .ok sql := by
  obtain ⟨_, _, lines, hrows, hempty, hlines, rfl⟩ := insert_plain_eq_ok.mp h
  obtain ⟨rfl, rfl⟩ := List.cons.inj hrows
  obtain ⟨literals, further, hfirst, hfurther, rfl⟩ := List.forall₂_cons_left_iff.mp hlines
  refine insert_plain_eq_ok.mpr ⟨first, moved, _, rfl, hempty, .cons hfirst ?_, rfl⟩
  exact LinesUp.perm_all hfurther hmoved

/-- **Inserting rows.**  Rows can be inserted exactly if they line up.  Then the columns of the
statement are those of the first row, in order, and in each row the literal in the place of a column
is that of the value which the row holds under the name of the column; so the entries of all rows
but the first may be listed in any order. -/
theorem Statement.insert_plain_iff (table : Ident) (rows : List Record) :
    ((∃ sql, Statement.insert table (rows.map .record) .plain = .ok sql) ↔ CanLineUp rows) ∧
    ∀ sql, Statement.insert table (rows.map .record) .plain = .ok sql →
      (∃ first lines, rows.head? = some first ∧
        sql = "INSERT INTO " ++ table.sql ++ " " ++ tupleSql first.quotedNames ++ " VALUES " ++
          ", ".intercalate (lines.map tupleSql) ∧
        List.Forall₂ (fun row literals =>
          List.Forall₂ (fun name literal => ∃ key value, (key, value) ∈ row.entries ∧
            quotedName? key = some name ∧ literal = value.sql) first.quotedNames literals)
          rows lines) ∧
      ∀ others, List.Forall₂ (fun row other => row.entries.Perm other.entries) rows.tail others →
        Statement.insert table ((rows.take 1 ++ others).map .record) .plain = .ok sql := by
  refine ⟨exists_insert_plain, fun sql hsql => ?_⟩
  obtain ⟨first, others, lines, rfl, -, hlines, rfl⟩ := insert_plain_eq_ok.mp hsql
  refine ⟨⟨first, lines, rfl, rfl, hlines.imp fun _ _ => LinesUp.placed⟩, fun moved hmoved => ?_⟩
  exact insert_plain_of_perm hsql hmoved

/-- Two rows that spell their columns in two ways and list them in two orders. -/
theorem Statement.insert_plain_iff_of_spellings :
    let first : Record := ⟨[("lastName", .text "Doe"), ("member", .bool true)]⟩
    let second : Record := ⟨[("member", .null), ("last name", .text "Roe")]⟩
    let swapped : Record := ⟨[("last name", .text "Roe"), ("member", .null)]⟩
    let table : Ident := ⟨[.bare "users"]⟩
    let sql := "INSERT INTO users (`last_name`, `member`) VALUES ('Doe', true), ('Roe', NULL)"
    Statement.insert table ([first, second].map .record) .plain = .ok sql ∧
      CanLineUp [first, second] ∧
      Statement.insert table ([first, swapped].map .record) .plain = .ok sql := by
  intro first second swapped table sql
  have hbuilt : Statement.insert table ([first, second].map .record) .plain = .ok sql :=
    toOption_eq_some.mp (by decide +kernel)
  obtain ⟨hiff, hsql⟩ := Statement.insert_plain_iff table [first, second]
  have hswapped := (hsql sql hbuilt).2 [swapped] (.cons (.swap _ _ _) .nil)
  exact ⟨hbuilt, hiff.mp ⟨sql, hbuilt⟩, hswapped⟩

end SqlAccess
