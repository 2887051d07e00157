/-!
# Entries in the order of their first mention

Records, filters and JSON objects are all lists of named entries.  What they share is how an entry
is put in: a name that is already there keeps its place and takes the new value, and a new name goes
to the end.  A list that grew this way holds every name once; a list that came from elsewhere, such
as the columns of a joined row, may hold a name several times, and then the first entry of a name is
the one that is found, replaced and removed.

* `Entries.put` — puts an entry in.
* `Entries.find?` — the value under a name.
* `Entries.erase` — the list without the first entry of a name.
* `Entries.collapse` — the entries put in one after the other: each name once, at the place of its
  first entry and with the value of its last.
-/

namespace SqlAccess

/-- Named values in order. -/
abbrev Entries (α : Type _) := List (String × α)

namespace Entries

variable {α : Type _}

/-- The names in order. -/
def keys (entries : Entries α) : List String :=
  entries.map Prod.fst

/-- Puts a value in under a name: in place if the name is there, else at the end. -/
def put (key : String) (value : α) : Entries α → Entries α
  | [] => [(key, value)]
  | (k, v) :: rest => if k = key then (key, value) :: rest else (k, v) :: put key value rest

/-- The value of the first entry under a name. -/
def find? (key : String) : Entries α → Option α
  | [] => none
  | (k, v) :: rest => if k = key then some v else find? key rest

/-- The entries without the first one under a name. -/
def erase (key : String) : Entries α → Entries α
  | [] => []
  | (k, v) :: rest => if k = key then rest else (k, v) :: erase key rest

/-- The entries put in one after the other. -/
def collapse (entries : Entries α) : Entries α :=
  entries.foldl (fun acc (k, v) => put k v acc) []

/-! ## What an operation does to the names and to what is found -/

/-- A name that is there keeps its place; a new one goes to the end. -/
theorem keys_put (key : String) (value : α) (entries : Entries α) :
    keys (put key value entries) =
      if key ∈ keys entries then keys entries else keys entries ++ [key] := by
  induction entries with
  | nil => simp [put, keys]
  | cons entry rest ih =>
    obtain ⟨k, v⟩ := entry
    simp only [keys] at ih
    by_cases h : k = key
    · simp [put, keys, h]
    · have h' : key ≠ k := fun e => h e.symm
      simp only [put, h, if_false, keys, List.map_cons, List.mem_cons, h', false_or]
      rw [ih]
      by_cases hmem : key ∈ rest.map Prod.fst <;> simp [hmem]

/-- What was put in under a name is found under it. -/
theorem find?_put_self (key : String) (value : α) (entries : Entries α) :
    find? key (put key value entries) = some value := by
  induction entries with
  | nil => simp [put, find?]
  | cons entry rest ih =>
    obtain ⟨k, v⟩ := entry
    by_cases h : k = key <;> simp [put, find?, h, ih]

/-- Putting in under one name changes nothing under another. -/
theorem find?_put_of_ne {key other : String} (h : other ≠ key) (value : α)
    (entries : Entries α) : find? other (put key value entries) = find? other entries := by
  induction entries with
  | nil => simp [put, find?, h.symm]
  | cons entry rest ih =>
    obtain ⟨k, v⟩ := entry
    by_cases hk : k = key
    · simp [put, find?, hk, h.symm]
    · simp only [put, hk, if_false, find?, ih]

/-- A name is found exactly if it is among the names. -/
theorem find?_isSome (key : String) (entries : Entries α) :
    (find? key entries).isSome = true ↔ key ∈ keys entries := by
  induction entries with
  | nil => simp [find?, keys]
  | cons entry rest ih =>
    obtain ⟨k, v⟩ := entry
    by_cases h : k = key
    · simp [find?, keys, h]
    · have h' : key ≠ k := fun e => h e.symm
      simp only [keys] at ih
      simp [find?, keys, h, h', ih]

end Entries

end SqlAccess
