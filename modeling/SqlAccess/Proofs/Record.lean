import SqlAccess.Proofs.Entries
import SqlAccess.Reply

/-!
# Rows whose columns repeat

A row that a driver delivers may name a column several times, in any places.  What is handed out
names it once.  **Place and value come from different columns**: the place from the first of the name
and the value from the last.

This is said once, of entries that are put in one after the other, and holds wherever rows are made
simple: when a row is handed out, when it is written as JSON, and when only the first row is asked
for.

* **`Record.collapse_first_place_last_value`** — what a row becomes, and that the three agree.
-/

namespace SqlAccess

namespace Record

lemma keys_collapse (r : Record) : r.collapse.keys = r.keys.eraseDups :=
  Entries.keys_collapse r.entries

lemma nodup_keys_collapse (r : Record) : r.collapse.keys.Nodup :=
  Entries.nodup_keys_collapse r.entries

/-- A row stays as it is exactly if it names no column twice. -/
lemma collapse_eq_self_iff {r : Record} : r.collapse = r ↔ r.keys.Nodup := by
  constructor
  · exact fun h => h ▸ r.nodup_keys_collapse
  · exact fun h => congrArg Record.mk (Entries.collapse_of_nodup h)

lemma collapse_collapse (r : Record) : r.collapse.collapse = r.collapse :=
  collapse_eq_self_iff.mpr r.nodup_keys_collapse

/-- The JSON object of a row has the columns of the row that is handed out. -/
lemma toJson_eq (r : Record) :
    r.toJson = .object (r.collapse.entries.map fun (k, v) => (k, v.toJson)) :=
  congrArg Json.object (Entries.collapse_map Value.toJson r.entries)

end Record

/-- **Every column once, at its first place and with its last value.**  So it is with every row that
is handed out.  Doing it twice is doing it once, and nothing happens to a row whose columns do not
repeat.  The JSON object of a row holds the columns of the row that is handed out, so it is that
row's object too, and the first row is the same, whether one row is asked for or all. -/
theorem Record.collapse_first_place_last_value (r : Record) (reply : Reply) :
    r.collapse.keys.Nodup ∧ r.collapse.keys = r.keys.eraseDups ∧
      (∀ key value, (key, value) ∈ r.collapse.entries ↔ r.entries.IsLast key value) ∧
      r.collapse.collapse = r.collapse ∧ (r.collapse = r ↔ r.keys.Nodup) ∧
      r.toJson = .object (r.collapse.entries.map fun (k, v) => (k, v.toJson)) ∧
      r.toJson = r.collapse.toJson ∧
      (reply.select .one).first = (reply.select .all).toList.head? := by
  refine ⟨r.nodup_keys_collapse, r.keys_collapse, fun key value => Entries.mem_collapse_iff,
    r.collapse_collapse, collapse_eq_self_iff, r.toJson_eq, ?_, List.head?_map.symm⟩
  rw [toJson_eq, toJson_eq, collapse_collapse]

end SqlAccess
