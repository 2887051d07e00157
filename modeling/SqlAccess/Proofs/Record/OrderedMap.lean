import Mathlib.Logic.Function.Basic
import SqlAccess.Proofs.Record

/-!
# Records are ordered maps

A record is a list of entries that is searched from the left, and it behaves as a map whose names
stand in the order in which they came (`OrderedMap`).  The invariant behind it is that every name
stands once: where a name stands twice, the first entry is removed and the second one appears.

Every step keeps the invariant and answers what the map answers (`Represents.take`), and so does
every run.  A record that grew from nothing has the invariant from the start.  A row that a driver
delivers gets it when it is rebuilt, whatever was done to it before.

* `Record.Step` — what is done to a record.
* **`Record.run_refines_orderedMap`** — every run from the empty record, and every run from a row
  from the first time on that it is rebuilt.
-/

namespace SqlAccess

/-! ## Ordered maps -/

/-- Values under names, and the order in which the names came. -/
structure OrderedMap (α : Type) where
  order : List String
  value : String → Option α
  nodup : order.Nodup
  mem_order : ∀ {key}, key ∈ order ↔ (value key).isSome = true

namespace OrderedMap

variable {α : Type}

/-- The map without names. -/
def empty : OrderedMap α where
  order := []
  value _ := none
  nodup := List.nodup_nil
  mem_order := by simp

/-- The map with a value under a name.  A name that is there keeps its place, and a new one comes
last. -/
def insert (m : OrderedMap α) (key : String) (value : α) : OrderedMap α where
  order := if key ∈ m.order then m.order else m.order ++ [key]
  value := Function.update m.value key (some value)
  nodup := by
    split_ifs with h
    · exact m.nodup
    · exact List.concat_eq_append ▸ List.Nodup.concat h m.nodup
  mem_order := by
    intro other
    by_cases h : other = key
    · subst h
      split_ifs with hmem <;> simp [hmem]
    · have hother : other ∈ m.order ↔ (m.value other).isSome = true := m.mem_order
      split_ifs with hmem <;> simp [h, hother]

/-- The map without a name; the other names keep their order. -/
def remove (m : OrderedMap α) (key : String) : OrderedMap α where
  order := m.order.filter (· != key)
  value := Function.update m.value key none
  nodup := m.nodup.filter _
  mem_order := by
    intro other
    by_cases h : other = key
    · simp [h]
    · simp [h, m.mem_order]

/-- The map of entries that come one after the other. -/
def ofList (entries : Entries α) : OrderedMap α :=
  entries.foldl (fun m (key, value) => m.insert key value) empty

end OrderedMap

namespace Record

/-! ## Steps -/

/-- The two ways in which a row is rebuilt. -/
inductive Rebuild where
  /-- Its entries are collected into a record. -/
  | collect
  /-- It is made into a row that names every column once. -/
  | normalize

/-- What is done to a record. -/
inductive Step where
  | insert (key : String) (value : Value)
  | set (key : String) (value : Value)
  | remove (key : String)
  | get (key : String)
  | contains (key : String)
  | rebuild (way : Rebuild)

/-- What a step answers. -/
inductive Answer where
  | value (found : Option Value)
  | truth (b : Bool)
  | nothing

/-- The answers to steps that are taken one after the other, and what they end with. -/
def Step.run {σ : Type} (take : σ → Step → Answer × σ) : σ → List Step → List Answer × σ
  | s, [] => ([], s)
  | s, step :: steps =>
    let (answer, s) := take s step
    let (answers, s) := Step.run take s steps
    (answer :: answers, s)

/-- A run is a run over the first steps and then one over the others. -/
lemma Step.run_append {σ : Type} (take : σ → Step → Answer × σ) (s : σ) (before after : List Step) :
    Step.run take s (before ++ after) =
      let (answers, s) := Step.run take s before
      let (others, s) := Step.run take s after
      (answers ++ others, s) := by
  induction before generalizing s with
  | nil => rfl
  | cons step before ih => simp only [List.cons_append, Step.run, ih]

/-- A record rebuilt in one of the two ways. -/
def rebuild (r : Record) : Rebuild → Record
  | .collect => ofList r.entries
  | .normalize => r.collapse

/-- What a step answers of a record and makes of it. -/
def take (r : Record) : Step → Answer × Record
  | .insert key value => (r.insert key value).map .value id
  | .set key value => (.nothing, r.set key value)
  | .remove key => (r.remove key).map .value id
  | .get key => (.value (r.get? key), r)
  | .contains key => (.truth (r.contains key), r)
  | .rebuild way => (.nothing, r.rebuild way)

/-- What steps answer of a record and make of it. -/
def run : Record → List Step → List Answer × Record :=
  Step.run take

end Record

namespace OrderedMap

open Record (Step Answer)

/-- What a step answers of a map and makes of it.  A map is what it is rebuilt as. -/
def take (m : OrderedMap Value) : Step → Answer × OrderedMap Value
  | .insert key value => (.value (m.value key), m.insert key value)
  | .set key value => (.nothing, m.insert key value)
  | .remove key => (.value (m.value key), m.remove key)
  | .get key => (.value (m.value key), m)
  | .contains key => (.truth (m.value key).isSome, m)
  | .rebuild _ => (.nothing, m)

/-- What steps answer of a map and make of it. -/
def run : OrderedMap Value → List Step → List Answer × OrderedMap Value :=
  Step.run take

end OrderedMap

namespace Record

/-! ## Records that are maps -/

/-- The record has the names of the map in their order, and under each name its value. -/
structure Represents (r : Record) (m : OrderedMap Value) : Prop where
  keys : r.keys = m.order
  get? : ∀ key, r.get? key = m.value key

section Represents

variable {r : Record} {m : OrderedMap Value}

lemma Represents.nodup (h : r.Represents m) : r.keys.Nodup :=
  h.keys ▸ m.nodup

lemma Represents.empty : Record.empty.Represents .empty :=
  ⟨rfl, fun _ => rfl⟩

lemma Represents.set (h : r.Represents m) (key : String) (value : Value) :
    (r.set key value).Represents (m.insert key value) where
  keys := by
    have hkeys : r.entries.keys = m.order := h.keys
    exact (Entries.keys_put key value r.entries).trans (by rw [hkeys]; rfl)
  get? other := by
    refine (Entries.find?_put r.entries key other value).trans ?_
    show _ = Function.update m.value key (some value) other
    rw [Function.update_apply]
    split_ifs with hother
    · rfl
    · exact h.get? other

lemma Represents.remove (h : r.Represents m) (key : String) :
    (r.remove key).2.Represents (m.remove key) where
  keys := by
    refine (Entries.keys_erase r.entries key).trans ?_
    have hkeys : r.entries.keys = m.order := h.keys
    rw [hkeys, m.nodup.erase_eq_filter]
    rfl
  get? other := by
    refine (Entries.find?_erase h.nodup key other).trans ?_
    show _ = Function.update m.value key none other
    rw [Function.update_apply]
    split_ifs with hother
    · rfl
    · exact h.get? other

/-- A record that is a map is what it is rebuilt as. -/
lemma Represents.rebuild (h : r.Represents m) (way : Rebuild) : (r.rebuild way).Represents m := by
  have hrebuild : r.rebuild way = r := by
    cases way <;> exact collapse_eq_self_iff.mpr h.nodup
  rwa [hrebuild]

/-- **Every step answers what the map answers**, and leaves a record that is the map it leaves. -/
lemma Represents.take (h : r.Represents m) (step : Step) :
    (r.take step).1 = (m.take step).1 ∧ (r.take step).2.Represents (m.take step).2 := by
  cases step with
  | insert key value => exact ⟨congrArg Answer.value (h.get? key), h.set key value⟩
  | set key value => exact ⟨rfl, h.set key value⟩
  | remove key => exact ⟨congrArg Answer.value (h.get? key), h.remove key⟩
  | get key => exact ⟨congrArg Answer.value (h.get? key), h⟩
  | contains key => exact ⟨congrArg (fun v : Option Value => Answer.truth v.isSome) (h.get? key), h⟩
  | rebuild way => exact ⟨rfl, h.rebuild way⟩

/-- **So does every run.** -/
lemma Represents.run (h : r.Represents m) (steps : List Step) :
    (r.run steps).1 = (m.run steps).1 ∧ (r.run steps).2.Represents (m.run steps).2 := by
  induction steps generalizing r m with
  | nil => exact ⟨rfl, h⟩
  | cons step steps ih =>
      obtain ⟨hanswer, hstep⟩ := h.take step
      obtain ⟨hanswers, hsteps⟩ := ih hstep
      exact ⟨congrArg₂ List.cons hanswer hanswers, hsteps⟩

/-- Entries that are put in one after the other are a map, whatever names repeat among them. -/
lemma Represents.ofList (entries : Entries Value) :
    (Record.ofList entries).Represents (.ofList entries) := by
  induction entries using List.reverseRecOn with
  | nil => exact .empty
  | append_singleton entries entry ih =>
      obtain ⟨key, value⟩ := entry
      have hmap : OrderedMap.ofList (entries ++ [(key, value)]) =
          (OrderedMap.ofList entries).insert key value := by
        rw [OrderedMap.ofList, List.foldl_append]
        rfl
      rw [Record.ofList, Entries.collapse_concat, hmap]
      exact ih.set key value

end Represents

/-! ## Places -/

/-- What becomes of the places of the entries. -/
structure KeepsPlaces (r : Record) : Prop where
  /-- Every name stands once. -/
  nodup : r.keys.Nodup
  /-- A new name goes to the end. -/
  insert_new : ∀ key value, key ∉ r.keys →
    r.insert key value = (none, ⟨r.entries ++ [(key, value)]⟩)
  /-- A name that is there keeps its place, and only its value is another. -/
  insert_again : ∀ before after key old value, r.entries = before ++ (key, old) :: after →
    r.insert key value = (some old, ⟨before ++ (key, value) :: after⟩)
  /-- The entries around one that is removed keep their order. -/
  remove : ∀ before after key old, r.entries = before ++ (key, old) :: after →
    r.remove key = (some old, ⟨before ++ after⟩)
  /-- A name that was removed goes to the end when it comes back. -/
  remove_insert : ∀ before after key old value, r.entries = before ++ (key, old) :: after →
    (r.remove key).2.insert key value = (none, ⟨before ++ after ++ [(key, value)]⟩)

section KeepsPlaces

variable {r : Record} {before after : Entries Value} {key : String} {old : Value}

lemma insert_of_notMem (h : key ∉ r.keys) (value : Value) :
    r.insert key value = (none, ⟨r.entries ++ [(key, value)]⟩) :=
  Prod.ext (Entries.find?_eq_none_iff.mpr h) (congrArg mk (Entries.put_of_notMem h value))

/-- A name that stands once stands neither before its entry nor behind it. -/
lemma notMem_keys_around (h : r.keys.Nodup) (heq : r.entries = before ++ (key, old) :: after) :
    key ∉ before.keys ++ after.keys := by
  have hkeys : r.keys = before.keys ++ key :: after.keys := by
    simp only [keys, heq, Entries.keys, List.map_append, List.map_cons]
  rw [hkeys] at h
  exact (List.nodup_cons.mp (List.nodup_middle.mp h)).1

lemma get?_between (hfront : key ∉ before.keys)
    (heq : r.entries = before ++ (key, old) :: after) : r.get? key = some old := by
  rw [get?, heq, Entries.find?_append hfront, Entries.find?, if_pos rfl]

lemma insert_between (hfront : key ∉ before.keys)
    (heq : r.entries = before ++ (key, old) :: after) (value : Value) :
    r.insert key value = (some old, ⟨before ++ (key, value) :: after⟩) := by
  rw [insert, get?_between hfront heq, set, heq, Entries.put_append hfront, Entries.put, if_pos rfl]

lemma remove_between (hfront : key ∉ before.keys)
    (heq : r.entries = before ++ (key, old) :: after) :
    r.remove key = (some old, ⟨before ++ after⟩) := by
  rw [remove, get?_between hfront heq, heq, Entries.erase_append hfront, Entries.erase, if_pos rfl]

/-- Where every name stands once, everything keeps its place. -/
lemma keepsPlaces_of_nodup (h : r.keys.Nodup) : r.KeepsPlaces where
  nodup := h
  insert_new key value hnew := insert_of_notMem hnew value
  insert_again before after key old value heq := by
    have haround := notMem_keys_around h heq
    exact insert_between (mt (List.mem_append_left _) haround) heq value
  remove before after key old heq := by
    have haround := notMem_keys_around h heq
    exact remove_between (mt (List.mem_append_left _) haround) heq
  remove_insert before after key old value heq := by
    have haround := notMem_keys_around h heq
    rw [remove_between (mt (List.mem_append_left _) haround) heq]
    refine insert_of_notMem ?_ value
    rwa [keys, Entries.keys, List.map_append]

end KeepsPlaces

end Record

/-- **A record is an ordered map.**  Whatever steps are taken from the empty record on, it answers
what the map answers and ends as the map ends, every name once, and with every entry in its place.
So it does from a row that a driver delivers, whatever was done to it before, from the first time on
that it is rebuilt: the map is then that of its entries, put in one after the other. -/
theorem Record.run_refines_orderedMap :
    (∀ steps : List Step,
      let run := Record.empty.run steps
      let map := OrderedMap.empty.run steps
      run.1 = map.1 ∧ run.2.Represents map.2 ∧ run.2.KeepsPlaces) ∧
    ∀ (columns : Entries Value) (before after : List Step) (way : Rebuild),
      let row := (ofColumns columns).run before
      let run := (ofColumns columns).run (before ++ .rebuild way :: after)
      let map := (OrderedMap.ofList row.2.entries).run after
      run.1 = row.1 ++ .nothing :: map.1 ∧ run.2.Represents map.2 ∧ run.2.KeepsPlaces := by
  constructor
  · intro steps run map
    obtain ⟨hanswers, hmap⟩ := Represents.empty.run steps
    exact ⟨hanswers, hmap, keepsPlaces_of_nodup hmap.nodup⟩
  · intro columns before after way row run map
    have hrebuild : (row.2.rebuild way).Represents (.ofList row.2.entries) := by
      cases way <;> exact .ofList row.2.entries
    obtain ⟨hanswers, hmap⟩ := hrebuild.run after
    have hrun : run = (row.1 ++ .nothing :: ((row.2.rebuild way).run after).1,
        ((row.2.rebuild way).run after).2) :=
      Step.run_append take (ofColumns columns) before (.rebuild way :: after)
    rw [hrun, hanswers]
    exact ⟨rfl, hmap, keepsPlaces_of_nodup hmap.nodup⟩

end SqlAccess
