import SqlAccess.Entity
import SqlAccess.Proofs.Column.Name
import SqlAccess.Proofs.Statement.Alignment
import SqlAccess.Proofs.Statement.Kind

/-!
# Writing entities and reading them back

The columns of an entity pass through `Column.normalize` on the way into a statement.  On the way
back they do not: a row is asked for the name as the layout has it (`Field.looksUp_column`).  So
**an entity is read from the columns it is written to exactly if all of these are named in snake
case** (`Entity.column_name_eq_iff`).  Under any other name — `createdAt`, `type_`, `` `from` `` —
what an insert stores in one column is looked for in another, which the table need not have.
-/

namespace SqlAccess

variable {α : Type}

/-! ## Reading -/

/-- What a field is read from is what a row holds under `name`, and nothing else of the row: the
field takes the value there, or, where there is none, stays as it is if it may be absent. -/
def Field.LooksUp (f : Field α) (name : String) : Prop :=
  ∀ (r : Record) (a : α), Entity.readField r f a =
    match r.get? name with
    | some value => (f.read value a).mapError fun e => .decode name e.message
    | none => if f.layout.mayBeAbsent then .ok a else .error (.decode name "column not found")

/-- A row is asked for the column as the layout names it. -/
lemma Field.looksUp_column {f : Field α} (h : f.layout.isStored = true) :
    f.LooksUp f.layout.column := by
  intro r a
  rw [Entity.readField, Record.contains, Record.require]
  cases r.get? f.layout.column with
  | none => cases f.layout.mayBeAbsent <;> simp [h, bind, Except.bind]
  | some value => simp [h, bind, Except.bind]

/-! ## Writing -/

lemma Record.mem_keys_set {r : Record} {key name : String} {value : Value} :
    name ∈ (r.set key value).keys ↔ name = key ∨ name ∈ r.keys := by
  rw [Record.keys, Record.set, Entries.keys_put, Record.keys]
  split_ifs with hkey <;> aesop

/-- The names in the row are those that were there and the columns of the fields that are stored. -/
lemma Entity.mem_keys_writeFields {a : α} {fields : List (Field α)} {r : Record} {name : String} :
    name ∈ (writeFields a fields r).keys ↔
      name ∈ r.keys ∨ ∃ f ∈ fields, f.layout.isStored = true ∧ f.layout.column = name := by
  induction fields generalizing r with
  | nil => simp [writeFields]
  | cons f fields ih =>
      rw [writeFields, ih]
      split_ifs with hstored
      · rw [Record.mem_keys_set]
        simp [hstored]
        tauto
      · simp [hstored]

/-- A plain or an ignoring insert of one record names its columns in front. -/
lemma Statement.insertOne_eq_ok {table : Ident} {r : Record} {mode : InsertMode} {sql : String}
    (h : Statement.insertOne table (.record r) mode = .ok sql) :
    (∀ key ∈ r.keys, ∃ column, Column.normalize key = .ok column) ∧
      ("INSERT INTO " ++ table.sql ++ " " ++ tupleSql r.quotedNames).toList <+: sql.toList := by
  obtain ⟨lines, hlines, h⟩ := bind_eq_ok.mp h
  have hsource : InsertRows.ofSources ([r].map .record) = .ok lines := hlines
  obtain ⟨-, hnames, hrows⟩ := ofSources_eq_ok.mp hsource
  obtain ⟨literals, -, hliterals, -⟩ := List.forall₂_cons_left_iff.mp hrows
  refine ⟨(exists_linesUp.mp ⟨literals, hliterals⟩).1, ?_⟩
  rw [← hnames]
  have hhead : lines.sql table = "INSERT INTO " ++ table.sql ++ " " ++ tupleSql lines.names ++
      (" VALUES " ++ ", ".intercalate (lines.rows.map tupleSql)) := String.append_assoc
  have hvalues : ("INSERT INTO " ++ table.sql ++ " " ++ tupleSql lines.names).toList <+:
      (lines.sql table).toList := by
    rw [hhead]
    exact Sql.prefix_append List.prefix_rfl _
  cases mode with
  | plain =>
      obtain rfl := Except.ok.inj h
      exact hvalues
  | ignoreDuplicates =>
      obtain rfl := Except.ok.inj h
      exact Sql.prefix_append hvalues _

/-! ## There and back -/

/-- **Entities and their columns.**  Where an entity can be inserted, every field that is stored is
written to the column that its name stands for, which the statement lists; and it is read from what
a row holds under its name as the layout has it.  These are the same column exactly if that name is
in snake case. -/
theorem Entity.column_name_eq_iff [Entity α] (a : α) (table : Ident) (mode : InsertMode)
    {sql : String} (h : Statement.insertOne table (.record (toRecord a)) mode = .ok sql) :
    ("INSERT INTO " ++ table.sql ++ " " ++ tupleSql (toRecord a).quotedNames).toList <+:
        sql.toList ∧
      ∀ f ∈ (Entity.fields : List (Field α)), f.layout.isStored = true →
        ∃ column, Column.normalize f.layout.column = .ok column ∧
          column.quotedSql ∈ (toRecord a).quotedNames ∧ f.LooksUp f.layout.column ∧
          (column.name = f.layout.column ↔ Text.isSnakeName f.layout.column = true) := by
  obtain ⟨hcolumns, hsql⟩ := Statement.insertOne_eq_ok h
  refine ⟨hsql, fun f hf hstored => ?_⟩
  have hkey : f.layout.column ∈ (toRecord a).keys :=
    Entity.mem_keys_writeFields.mpr (.inr ⟨f, hf, hstored, rfl⟩)
  obtain ⟨column, hcolumn⟩ := hcolumns _ hkey
  have hname : column.quotedSql ∈ (toRecord a).quotedNames :=
    List.mem_filterMap.mpr ⟨_, hkey, quotedName?_eq_some_iff.mpr ⟨column, hcolumn, rfl⟩⟩
  exact ⟨column, hcolumn, hname, Field.looksUp_column hstored, Column.name_eq_iff hcolumn⟩

/-- A visit, with a column that is named in another style. -/
structure Visit where
  id : UInt64
  lastSeen : UInt64
deriving DecidableEq

instance : Entity Visit where
  typeName := "Visit"
  otherTable := some "visits"
  blank := ⟨0, 0⟩
  fields := [
    .of (.plain "id") Visit.id fun visit id => { visit with id },
    .of ⟨"last_seen", some "lastSeen", true, false⟩ Visit.lastSeen
      fun visit lastSeen => { visit with lastSeen }]

/-- A visit is not read back from the row that it was written to. -/
theorem Entity.column_name_eq_iff_of_visit :
    let visit : Visit := ⟨7, 5⟩
    let row : Record := ⟨[("id", .uint 7), ("last_seen", .uint 5)]⟩
    Statement.insertOne ⟨[.bare "visits"]⟩ (.record (toRecord visit)) .plain =
        .ok "INSERT INTO visits (`id`, `last_seen`) VALUES (7, 5)" ∧
      (∃ column, Column.normalize "id" = .ok column ∧ column.name = "id") ∧
      (∃ column, Column.normalize "lastSeen" = .ok column ∧ column.name ≠ "lastSeen") ∧
      (Entity.ofRecord row : Except Error Visit) = .error (.decode "lastSeen" "column not found") := by
  intro visit row
  have hbuilt : Statement.insertOne ⟨[.bare "visits"]⟩ (.record (toRecord visit)) .plain =
      .ok "INSERT INTO visits (`id`, `last_seen`) VALUES (7, 5)" :=
    toOption_eq_some.mp (by decide +kernel)
  have hfields := (Entity.column_name_eq_iff visit ⟨[.bare "visits"]⟩ .plain hbuilt).2
  obtain ⟨id, hid, -, -, hsame⟩ := hfields _ List.mem_cons_self rfl
  obtain ⟨seen, hseen, -, -, hother⟩ :=
    hfields _ (List.mem_cons_of_mem _ List.mem_cons_self) rfl
  refine ⟨hbuilt, ⟨id, hid, hsame.mpr (by decide)⟩, ⟨seen, hseen, ?_⟩, rfl⟩
  exact fun hname => absurd (hother.mp hname) (by decide)

end SqlAccess
