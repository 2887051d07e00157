import Mathlib.Data.List.Induction
import Mathlib.Data.List.Nodup
import Mathlib.Tactic.Common
import SqlAccess.Entries

/-!
# What is found among entries

What is found under a name is the value of an entry of that name.  Where every name stands only
once, the converse holds too (`find?_eq_some_iff`): then it does not matter in which order entries
are listed.

Putting an entry in keeps every name single (`nodup_keys_put`) and changes one place only, with what
stands before and behind it (`exists_put`).

Taking an entry out leaves nothing of its name behind where every name stands once (`find?_erase`).

Entries that are put in one after the other take their places from the first entry of each name and
their values from the last (`keys_collapse`, `mem_collapse_iff`).
-/

namespace SqlAccess.Entries

variable {α : Type}

/-- What is found under a name is the value of an entry. -/
lemma mem_of_find? {entries : Entries α} {key : String} {value : α}
    (h : entries.find? key = some value) : (key, value) ∈ entries := by
  induction entries with
  | nil => simp [Entries.find?] at h
  | cons entry entries ih =>
      obtain ⟨k, v⟩ := entry
      rw [Entries.find?] at h
      split_ifs at h with hk
      · obtain rfl := Option.some.inj h
        exact hk ▸ List.mem_cons_self
      · exact List.mem_cons_of_mem _ (ih h)

lemma key_mem_of_mem {entries : Entries α} {key : String} {value : α}
    (h : (key, value) ∈ entries) : key ∈ entries.keys :=
  List.mem_map.mpr ⟨_, h, rfl⟩

/-- Where every name stands once, all entries are found. -/
lemma find?_eq_some_iff {entries : Entries α} (hnodup : entries.keys.Nodup) {key : String}
    {value : α} : entries.find? key = some value ↔ (key, value) ∈ entries := by
  refine ⟨mem_of_find?, fun hmem => ?_⟩
  induction entries with
  | nil => cases hmem
  | cons entry entries ih =>
      obtain ⟨k, v⟩ := entry
      obtain ⟨hnew, hnodup⟩ := List.nodup_cons.mp hnodup
      rw [Entries.find?]
      rcases List.mem_cons.mp hmem with heq | hmem
      · obtain ⟨rfl, rfl⟩ := Prod.mk.inj heq
        rw [if_pos rfl]
      · have hne : k ≠ key := fun heq => hnew (heq ▸ key_mem_of_mem hmem)
        rw [if_neg hne]
        exact ih hnodup hmem

/-! ## Putting an entry in -/

/-- A name that is listed again changes nothing about the order of first mentions. -/
lemma eraseDups_concat (names : List String) (name : String) :
    (names ++ [name]).eraseDups =
      if name ∈ names then names.eraseDups else names.eraseDups ++ [name] := by
  rw [List.eraseDups_append]
  split_ifs with h <;> simp [List.removeAll, List.eraseDups_cons, h]

lemma find?_put (entries : Entries α) (key other : String) (value : α) :
    (entries.put key value).find? other =
      if other = key then some value else entries.find? other := by
  split_ifs with h
  · exact h ▸ find?_put_self key value entries
  · exact find?_put_of_ne h value entries

/-- Of two values put in under one name the second stays. -/
lemma put_put (entries : Entries α) (key : String) (first second : α) :
    (entries.put key first).put key second = entries.put key second := by
  induction entries with
  | nil => simp [Entries.put]
  | cons entry entries ih =>
      obtain ⟨k, v⟩ := entry
      by_cases h : k = key <;> simp [Entries.put, h, ih]

/-- Where every name stands once, putting an entry in keeps it so. -/
lemma nodup_keys_put {entries : Entries α} (h : entries.keys.Nodup) (key : String) (value : α) :
    (entries.put key value).keys.Nodup := by
  rw [keys_put]
  split_ifs with hmem
  · exact h
  · exact List.concat_eq_append ▸ List.Nodup.concat hmem h

/-- **Putting an entry in changes one place**: that of the name if it is there, and else the end. -/
lemma exists_put (entries : Entries α) (key : String) :
    ∃ before after, entries = before ++ (entries.find? key).toList.map (key, ·) ++ after ∧
      ∀ value, entries.put key value = before ++ (key, value) :: after := by
  induction entries with
  | nil => exact ⟨[], [], rfl, fun _ => rfl⟩
  | cons entry entries ih =>
      obtain ⟨k, v⟩ := entry
      by_cases h : k = key
      · subst h
        exact ⟨[], entries, by simp [Entries.find?], fun value => by simp [Entries.put]⟩
      · obtain ⟨before, after, hentries, hput⟩ := ih
        refine ⟨(k, v) :: before, after, ?_, fun value => ?_⟩
        · rw [Entries.find?, if_neg h, List.cons_append, List.cons_append, ← hentries]
        · rw [Entries.put, if_neg h, hput, List.cons_append]

/-- In front of a name that is not among them, entries stay as they are. -/
lemma put_append {before : Entries α} {key : String} (h : key ∉ before.keys) (after : Entries α)
    (value : α) : (before ++ after).put key value = before ++ after.put key value := by
  induction before with
  | nil => rfl
  | cons entry before ih =>
      obtain ⟨k, v⟩ := entry
      obtain ⟨hne, h⟩ := not_or.mp (mt List.mem_cons.mpr h)
      rw [List.cons_append, Entries.put, if_neg (Ne.symm hne), ih h, List.cons_append]

/-- A new name goes to the end. -/
lemma put_of_notMem {entries : Entries α} {key : String} (h : key ∉ entries.keys) (value : α) :
    entries.put key value = entries ++ [(key, value)] := by
  have hput := put_append h [] value
  rwa [List.append_nil] at hput

/-- It makes no difference whether a value is worked on before it is put in or after. -/
lemma put_map {β : Type} (f : α → β) (entries : Entries α) (key : String) (value : α) :
    Entries.put key (f value) (entries.map fun (k, v) => (k, f v)) =
      (entries.put key value).map fun (k, v) => (k, f v) := by
  induction entries with
  | nil => rfl
  | cons entry entries ih =>
      obtain ⟨k, v⟩ := entry
      by_cases h : k = key <;> simp [Entries.put, h, ih]

/-! ## Taking an entry out -/

lemma find?_eq_none_iff {entries : Entries α} {key : String} :
    entries.find? key = none ↔ key ∉ entries.keys := by
  rw [← Option.not_isSome_iff_eq_none, find?_isSome]

lemma find?_append {before : Entries α} {key : String} (h : key ∉ before.keys)
    (after : Entries α) : (before ++ after).find? key = after.find? key := by
  induction before with
  | nil => rfl
  | cons entry before ih =>
      obtain ⟨k, v⟩ := entry
      obtain ⟨hne, h⟩ := not_or.mp (mt List.mem_cons.mpr h)
      rw [List.cons_append, Entries.find?, if_neg (Ne.symm hne), ih h]

lemma erase_append {before : Entries α} {key : String} (h : key ∉ before.keys)
    (after : Entries α) :
    Entries.erase key (before ++ after) = before ++ Entries.erase key after := by
  induction before with
  | nil => rfl
  | cons entry before ih =>
      obtain ⟨k, v⟩ := entry
      obtain ⟨hne, h⟩ := not_or.mp (mt List.mem_cons.mpr h)
      rw [List.cons_append, Entries.erase, if_neg (Ne.symm hne), ih h, List.cons_append]

lemma keys_erase (entries : Entries α) (key : String) :
    keys (Entries.erase key entries) = entries.keys.erase key := by
  induction entries with
  | nil => rfl
  | cons entry entries ih =>
      obtain ⟨k, v⟩ := entry
      rw [Entries.erase]
      split_ifs with h
      · subst h
        exact (List.erase_cons_head ..).symm
      · refine Eq.trans (congrArg (k :: ·) ih) (Eq.symm ?_)
        exact List.erase_cons_tail (by simpa using h)

lemma find?_erase_of_ne {key other : String} (h : other ≠ key) (entries : Entries α) :
    (Entries.erase key entries).find? other = entries.find? other := by
  induction entries with
  | nil => rfl
  | cons entry entries ih =>
      obtain ⟨k, v⟩ := entry
      rw [Entries.erase]
      split_ifs with hk
      · rw [Entries.find?, if_neg (hk ▸ Ne.symm h)]
      · rw [Entries.find?, Entries.find?, ih]

/-- **Of a name that stands once nothing is left**, and the others are found as before. -/
lemma find?_erase {entries : Entries α} (hnodup : entries.keys.Nodup) (key other : String) :
    (Entries.erase key entries).find? other =
      if other = key then none else entries.find? other := by
  split_ifs with h
  · rw [find?_eq_none_iff, keys_erase, h]
    exact hnodup.not_mem_erase
  · exact find?_erase_of_ne h entries

/-! ## Entries put in one after the other -/

lemma collapse_concat (entries : Entries α) (key : String) (value : α) :
    collapse (entries ++ [(key, value)]) = entries.collapse.put key value := by
  rw [collapse, List.foldl_append]
  rfl

lemma keys_concat (entries : Entries α) (key : String) (value : α) :
    keys (entries ++ [(key, value)]) = entries.keys ++ [key] := by
  rw [keys, List.map_append]
  rfl

/-- **Names stand where they are first mentioned.** -/
lemma keys_collapse (entries : Entries α) : entries.collapse.keys = entries.keys.eraseDups := by
  induction entries using List.reverseRecOn with
  | nil => rfl
  | append_singleton entries entry ih =>
      rw [collapse_concat, keys_put, ih, keys_concat, eraseDups_concat]
      simp only [List.mem_eraseDups]

/-- **Every name stands once.** -/
lemma nodup_keys_collapse (entries : Entries α) : entries.collapse.keys.Nodup := by
  induction entries using List.reverseRecOn with
  | nil => exact List.nodup_nil
  | append_singleton entries entry ih =>
      rw [collapse_concat]
      exact nodup_keys_put ih _ _

/-- The value stands under the name in the last entry that the name has. -/
def IsLast (entries : Entries α) (key : String) (value : α) : Prop :=
  ∃ before after, entries = before ++ (key, value) :: after ∧ key ∉ keys after

/-- With one entry more, the last value of its name is its own, and the others have theirs. -/
lemma isLast_concat_iff {entries : Entries α} {key k : String} {value v : α} :
    IsLast (entries ++ [(k, v)]) key value ↔
      if key = k then v = value else entries.IsLast key value := by
  constructor
  · rintro ⟨before, after, heq, hlast⟩
    rcases List.eq_nil_or_concat' after with rfl | ⟨after, ⟨k', v'⟩, rfl⟩
    · obtain ⟨-, hentry⟩ := List.append_inj' heq rfl
      obtain ⟨rfl, rfl⟩ := Prod.mk.inj (List.singleton_inj.mp hentry)
      rw [if_pos rfl]
    · rw [← List.cons_append, ← List.append_assoc] at heq
      obtain ⟨rfl, hentry⟩ := List.append_inj' heq rfl
      obtain ⟨rfl, rfl⟩ := Prod.mk.inj (List.singleton_inj.mp hentry)
      rw [keys_concat, List.mem_append, not_or, List.mem_singleton] at hlast
      rw [if_neg hlast.2]
      exact ⟨before, after, rfl, hlast.1⟩
  · split_ifs with h
    · rintro rfl
      exact ⟨entries, [], by rw [h], List.not_mem_nil⟩
    · rintro ⟨before, after, rfl, hlast⟩
      refine ⟨before, after ++ [(k, v)], by rw [List.append_assoc, List.cons_append], ?_⟩
      rw [keys_concat, List.mem_append, not_or, List.mem_singleton]
      exact ⟨hlast, h⟩

/-- **Every name has its last value.** -/
lemma mem_collapse_iff {entries : Entries α} {key : String} {value : α} :
    (key, value) ∈ entries.collapse ↔ entries.IsLast key value := by
  rw [← find?_eq_some_iff (nodup_keys_collapse entries)]
  induction entries using List.reverseRecOn with
  | nil => simp [collapse, Entries.find?, IsLast]
  | append_singleton entries entry ih =>
      rw [collapse_concat, find?_put, isLast_concat_iff]
      split_ifs with h
      · exact Option.some_inj
      · exact ih

/-- Where every name stands once already, nothing changes. -/
lemma collapse_of_nodup {entries : Entries α} (h : entries.keys.Nodup) :
    entries.collapse = entries := by
  induction entries using List.reverseRecOn with
  | nil => rfl
  | append_singleton entries entry ih =>
      rw [keys_concat, List.nodup_append] at h
      obtain ⟨hnodup, -, hnew⟩ := h
      rw [collapse_concat, ih hnodup, put_of_notMem]
      exact fun hmem => hnew _ hmem _ List.mem_cons_self rfl

lemma collapse_map {β : Type} (f : α → β) (entries : Entries α) :
    collapse (entries.map fun (k, v) => (k, f v)) =
      entries.collapse.map fun (k, v) => (k, f v) := by
  induction entries using List.reverseRecOn with
  | nil => rfl
  | append_singleton entries entry ih =>
      rw [List.map_append, collapse_concat, ← put_map, ← ih]
      exact collapse_concat _ _ _

end SqlAccess.Entries
