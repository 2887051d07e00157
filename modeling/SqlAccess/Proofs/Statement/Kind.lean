import SqlAccess.Proofs.Sql.DuplicateClause
import SqlAccess.Proofs.Sql.LeadingComments
import SqlAccess.Proofs.Statement.Request
import SqlAccess.Proofs.Success

/-!
# The kinds of the statements that are built

A statement that is built begins with its verb: no blank, comment or parenthesis stands in front of
it, and it has no named queries.  So its kind is told by its first characters, whatever the caller
put into the rest.  Only what tells an upsert from an insert is looked for in the rest, and what is
built to insert or change rows holds the clause by construction.

**Building and classifying agree** (`Request.isAcceptedAs_kind`): whatever is asked for, the
statement is of a kind that may stand where the request belongs.
-/

namespace SqlAccess

namespace Sql

/-! ## Statements that begin with their verb -/

/-- A statement that begins with its verb is of the kind of that verb. -/
lemma classify_eq_kindOfStatement {sql : String}
    (hblanks : Text.dropBlanks sql.toList = sql.toList) (hlead : afterLead? sql.toList = none)
    (hwith : afterKeyword? "WITH".toList sql.toList = none) :
    classify sql = kindOfStatement sql.toList := by
  rw [classify, decidingStatement, fromFirstWord_eq_self hblanks hlead, hwith]

lemma prefix_append {verb sql : String} (h : verb.toList <+: sql.toList) (more : String) :
    verb.toList <+: (sql ++ more).toList := by
  rw [String.toList_append]
  exact h.trans (List.prefix_append _ _)

lemma classify_select {sql : String} (h : "SELECT ".toList <+: sql.toList) :
    classify sql = .select := by
  obtain ⟨rest, hrest⟩ := h
  refine (classify_eq_kindOfStatement ?_ ?_ ?_).trans ?_
  all_goals
    rw [← hrest]
    rfl

/-- What begins as an insert is an upsert if it holds the clause about duplicates. -/
lemma classify_insert {sql : String} (h : "INSERT ".toList <+: sql.toList) :
    classify sql = if holdsDuplicateClause sql.toList then .upsert else .insert := by
  obtain ⟨rest, hrest⟩ := h
  refine (classify_eq_kindOfStatement ?_ ?_ ?_).trans ?_
  all_goals
    rw [← hrest]
    rfl

lemma classify_update {sql : String} (h : "UPDATE ".toList <+: sql.toList) :
    classify sql = .update := by
  obtain ⟨rest, hrest⟩ := h
  refine (classify_eq_kindOfStatement ?_ ?_ ?_).trans ?_
  all_goals
    rw [← hrest]
    rfl

lemma classify_delete {sql : String} (h : "DELETE ".toList <+: sql.toList) :
    classify sql = .delete := by
  obtain ⟨rest, hrest⟩ := h
  refine (classify_eq_kindOfStatement ?_ ?_ ?_).trans ?_
  all_goals
    rw [← hrest]
    rfl

end Sql

/-! ## Statements that are built -/

namespace Statement

variable {table : Ident} {filter : FilterSource} {sql : String}

/-- **What is built to read rows is a select.** -/
theorem classify_of_select {options : QueryOptions}
    (h : Statement.select table filter options = .ok sql) : Sql.classify sql = .select := by
  obtain ⟨_, -, h⟩ := bind_eq_ok.mp h
  obtain ⟨_, -, h⟩ := bind_eq_ok.mp h
  obtain ⟨condition, -, h⟩ := bind_eq_ok.mp h
  obtain ⟨order, -, h⟩ := bind_eq_ok.mp h
  obtain rfl := Except.ok.inj h
  have hverb : "SELECT ".toList <+: "SELECT * FROM ".toList := by decide
  exact Sql.classify_select
    (Sql.prefix_append (Sql.prefix_append (Sql.prefix_append (Sql.prefix_append hverb _) _) _) _)

lemma classify_of_count (h : Statement.count table filter = .ok sql) :
    Sql.classify sql = .select := by
  obtain ⟨_, -, h⟩ := bind_eq_ok.mp h
  obtain ⟨condition, -, h⟩ := bind_eq_ok.mp h
  obtain rfl := Except.ok.inj h
  have hverb : "SELECT ".toList <+: "SELECT COUNT(*) AS count FROM ".toList := by decide
  exact Sql.classify_select (Sql.prefix_append (Sql.prefix_append hverb _) _)

lemma prefix_insertRows (table : Ident) (rows : InsertRows) :
    "INSERT ".toList <+: (rows.sql table).toList := by
  have hverb : "INSERT ".toList <+: "INSERT INTO ".toList := by decide
  unfold InsertRows.sql
  simp only [String.append_assoc]
  exact Sql.prefix_append hverb _

/-- **What is built to insert rows is an insert**, and an upsert if it holds the clause about
duplicates. -/
theorem classify_of_insert {rows : List RecordSource} {mode : InsertMode}
    (h : Statement.insert table rows mode = .ok sql) :
    Sql.classify sql = if Sql.holdsDuplicateClause sql.toList then .upsert else .insert := by
  obtain ⟨lines, -, h⟩ := bind_eq_ok.mp h
  cases mode with
  | plain =>
      obtain rfl := Except.ok.inj h
      exact Sql.classify_insert (prefix_insertRows table lines)
  | ignoreDuplicates =>
      obtain rfl := Except.ok.inj h
      exact Sql.classify_insert (Sql.prefix_append (prefix_insertRows table lines) _)

/-- **What is built to insert or change rows is an upsert**: the words of the clause stand behind
the rows, with blanks around them. -/
theorem classify_of_upsertBulk {rows : List RecordSource} {onDuplicate : OnDuplicate}
    (h : Statement.upsertBulk table rows onDuplicate = .ok sql) : Sql.classify sql = .upsert := by
  obtain ⟨lines, -, h⟩ := bind_eq_ok.mp h
  obtain ⟨assignments, -, h⟩ := bind_eq_ok.mp h
  obtain rfl := Except.ok.inj h
  have hclause := Sql.holdsDuplicateClause_of_words (lines.sql table) assignments
  rw [String.append_assoc] at hclause
  have hverb := Sql.prefix_append (prefix_insertRows table lines) (onDuplicateClause assignments)
  exact (Sql.classify_insert hverb).trans (if_pos hclause)

lemma prefix_of_update {args : RecordSource} (h : Statement.update table filter args = .ok sql) :
    "UPDATE ".toList <+: sql.toList := by
  obtain ⟨_, -, h⟩ := bind_eq_ok.mp h
  obtain ⟨_, -, h⟩ := bind_eq_ok.mp h
  split_ifs at h
  obtain ⟨assignments, -, h⟩ := bind_eq_ok.mp h
  obtain ⟨condition, -, h⟩ := bind_eq_ok.mp h
  obtain rfl := Except.ok.inj h
  simp only [String.append_assoc]
  exact Sql.prefix_append (List.prefix_refl _) _

lemma prefix_of_delete (h : Statement.delete table filter = .ok sql) :
    "DELETE ".toList <+: sql.toList := by
  obtain ⟨_, -, h⟩ := bind_eq_ok.mp h
  obtain ⟨condition, -, h⟩ := bind_eq_ok.mp h
  obtain rfl := Except.ok.inj h
  have hverb : "DELETE ".toList <+: "DELETE FROM ".toList := by decide
  exact Sql.prefix_append (Sql.prefix_append hverb _) _

end Statement

/-! ## Requests -/

namespace Request

/-- The kind of statement that a request is carried out as. -/
def kind : Request → StatementKind
  | .select _ _ => .select
  | .count _ => .select
  | .insert _ _ => .insert
  | .insertOne _ _ => .insert
  | .upsert _ _ => .upsert
  | .upsertBulk _ _ => .upsert
  | .update _ _ => .update
  | .updateOne _ _ => .update
  | .delete _ => .delete
  | .deleteOne _ => .delete

/-- **Building and classifying agree.** -/
theorem isAcceptedAs_kind {table : Ident} {request : Request} {sql : String}
    (h : request.build table = .ok sql) :
    (Sql.classify sql).isAcceptedAs request.kind = true := by
  have hinsert {rows : List RecordSource} {mode : InsertMode}
      (h : Statement.insert table rows mode = .ok sql) :
      (Sql.classify sql).isAcceptedAs .insert = true := by
    rw [Statement.classify_of_insert h]
    split_ifs <;> rfl
  cases request with
  | select filter options =>
      rw [Statement.classify_of_select h]
      rfl
  | count filter =>
      rw [Statement.classify_of_count h]
      rfl
  | insert rows mode => exact hinsert h
  | insertOne row mode => exact hinsert h
  | upsert row onDuplicate =>
      rw [Statement.classify_of_upsertBulk h]
      rfl
  | upsertBulk rows onDuplicate =>
      rw [Statement.classify_of_upsertBulk h]
      rfl
  | update filter args =>
      rw [Sql.classify_update (Statement.prefix_of_update h)]
      rfl
  | updateOne filter args =>
      obtain ⟨text, htext, rfl⟩ := map_eq_ok.mp h
      rw [Sql.classify_update (Sql.prefix_append (Statement.prefix_of_update htext) _)]
      rfl
  | delete filter =>
      rw [Sql.classify_delete (Statement.prefix_of_delete h)]
      rfl
  | deleteOne filter =>
      obtain ⟨text, htext, rfl⟩ := map_eq_ok.mp h
      rw [Sql.classify_delete (Sql.prefix_append (Statement.prefix_of_delete htext) _)]
      rfl

end Request

end SqlAccess
