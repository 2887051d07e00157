import SqlAccess.Proofs.Success
import SqlAccess.Value

/-!
# Values between JSON and JSON

A JSON value becomes a value, and a value becomes JSON again.  The way back undoes the way there
but for the raw markers, which come back as the strings that they hold: a raw value is written as
its text, and a text is written so too.

**Objects decide whether there is a way at all** (`exists_ofJson?_iff`).  However deep an object
stands, it must be a raw marker, and nothing else in the JSON value matters.  So there is no value
that loses an object, and the only loss of the whole trip is the difference between raw SQL and
text.

* `Json.Holds` — what stands inside a JSON value, at any depth.
* `Json.unmarked` — a JSON value with its raw markers replaced by their strings.
* **`Value.toJson_eq_unmarked`** — which JSON values become values, and what these become.

The type of JSON values has room for numbers that are not finite.  JSON itself has none, and
`Json.IsFinite` says so; for numbers that are not finite the law would not hold, since they become
null.
-/

namespace SqlAccess

/-! ## Inside a JSON value -/

namespace Json

/-- `Holds j part`: the JSON value is `part` or holds it at any depth. -/
inductive Holds : Json → Json → Prop
  | self (j : Json) : Holds j j
  | item {items : List Json} {item part : Json} (hitem : item ∈ items) (hpart : Holds item part) :
      Holds (.array items) part
  | member {members : List (String × Json)} {member : String × Json} {part : Json}
      (hmember : member ∈ members) (hpart : Holds member.2 part) : Holds (.object members) part

/-- A JSON value with finite numbers only, as JSON has no others. -/
def IsFinite (j : Json) : Prop :=
  ∀ x, j.Holds (.float x) → x.isFinite = true

/-- Every object in a JSON value is a raw marker: it has one member, which is named `raw` and holds
a string. -/
def HasOnlyMarkers (j : Json) : Prop :=
  ∀ members, j.Holds (.object members) → ∃ sql, members = [("raw", .string sql)]

mutual

/-- The JSON value with the string of each raw marker in place of the marker.  Objects of another
kind stay. -/
def unmarked : Json → Json
  | .array items => .array (unmarkedItems items)
  | .object [("raw", .string sql)] => .string sql
  | j => j

/-- The items of an array with the strings of raw markers in place of the markers. -/
def unmarkedItems : List Json → List Json
  | [] => []
  | item :: items => unmarked item :: unmarkedItems items

end

/-- What holds of an array if it holds of its items holds of every JSON value, provided that it
holds of all that is no array. -/
@[elab_as_elim]
theorem induction {motive : Json → Prop} (null : motive .null) (bool : ∀ b, motive (.bool b))
    (integer : ∀ n, motive (.integer n)) (float : ∀ x, motive (.float x))
    (string : ∀ s, motive (.string s))
    (array : ∀ items, (∀ item ∈ items, motive item) → motive (.array items))
    (object : ∀ members, motive (.object members)) : ∀ j : Json, motive j
  | .null => null
  | .bool b => bool b
  | .integer n => integer n
  | .float x => float x
  | .string s => string s
  | .array items => array items fun item _ =>
      induction null bool integer float string array object item
  | .object members => object members

/-! ### Arrays and markers -/

lemma unmarkedItems_eq (items : List Json) : unmarkedItems items = items.map unmarked := by
  induction items with
  | nil => rfl
  | cons item items ih => rw [unmarkedItems, ih, List.map_cons]

lemma unmarked_array (items : List Json) :
    unmarked (.array items) = .array (items.map unmarked) := by
  rw [unmarked, unmarkedItems_eq]

lemma holds_array_iff {items : List Json} {part : Json} :
    Holds (.array items) part ↔ part = .array items ∨ ∃ item ∈ items, item.Holds part := by
  constructor
  · intro h
    cases h with
    | self => exact .inl rfl
    | item hitem hpart => exact .inr ⟨_, hitem, hpart⟩
  · rintro (rfl | ⟨item, hitem, hpart⟩)
    · exact .self _
    · exact .item hitem hpart

/-- What a marker holds is the marker and its string. -/
lemma holds_marker_iff {sql : String} {part : Json} :
    Holds (.object [("raw", .string sql)]) part ↔
      part = .object [("raw", .string sql)] ∨ part = .string sql := by
  constructor
  · intro h
    cases h with
    | self => exact .inl rfl
    | member hmember hpart =>
        obtain rfl := List.mem_singleton.mp hmember
        cases hpart
        exact .inr rfl
  · rintro (rfl | rfl)
    · exact .self _
    · exact .member List.mem_cons_self (.self _)

lemma hasOnlyMarkers_array_iff {items : List Json} :
    HasOnlyMarkers (.array items) ↔ ∀ item ∈ items, item.HasOnlyMarkers := by
  simp only [HasOnlyMarkers, holds_array_iff, reduceCtorEq, false_or]
  exact ⟨fun h item hitem members hmembers => h members ⟨item, hitem, hmembers⟩,
    fun h members ⟨item, hitem, hmembers⟩ => h item hitem members hmembers⟩

lemma hasOnlyMarkers_object_iff {members : List (String × Json)} :
    HasOnlyMarkers (.object members) ↔ ∃ sql, members = [("raw", .string sql)] := by
  constructor
  · exact fun h => h members (.self _)
  · rintro ⟨sql, rfl⟩ members h
    rcases holds_marker_iff.mp h with h | h
    · exact ⟨sql, Json.object.inj h⟩
    · cases h

lemma isFinite_array_iff {items : List Json} :
    IsFinite (.array items) ↔ ∀ item ∈ items, item.IsFinite := by
  simp only [IsFinite, holds_array_iff, reduceCtorEq, false_or]
  exact ⟨fun h item hitem x hx => h x ⟨item, hitem, hx⟩,
    fun h x ⟨item, hitem, hx⟩ => h item hitem x hx⟩

lemma isFinite_float_iff {x : Float} : IsFinite (.float x) ↔ x.isFinite = true := by
  constructor
  · exact fun h => h x (.self _)
  · intro h y hy
    cases hy
    exact h

lemma isFinite_marker (sql : String) : IsFinite (.object [("raw", .string sql)]) := by
  intro x h
  rcases holds_marker_iff.mp h with h | h <;> cases h

/-- Where there are no objects there is nothing to replace. -/
lemma unmarked_of_no_object {j : Json} (h : ∀ members, ¬ j.Holds (.object members)) :
    j.unmarked = j := by
  induction j using Json.induction with
  | array items ih =>
      rw [unmarked_array, List.map_congr_left fun item hitem =>
        ih item hitem fun members hmembers => h members (.item hitem hmembers), List.map_id']
  | object members => exact absurd (.self _) (h members)
  | _ => rfl

end Json

namespace Value

/-! ## The way there -/

lemma rawMarker?_eq_some {members : List (String × Json)} {sql : String} :
    rawMarker? members = some sql ↔ members = [("raw", .string sql)] := by
  constructor
  · intro h
    unfold rawMarker? at h
    split at h
    · rw [Option.some.inj h]
    · cases h
  · rintro rfl
    rfl

/-- The items of an array become values one by one. -/
lemma ofJsonItems?_eq_some {items : List Json} {values : List Value} :
    ofJsonItems? items = some values ↔
      List.Forall₂ (fun item value => ofJson? item = some value) items values := by
  induction items generalizing values with
  | nil => simp [ofJsonItems?, eq_comm]
  | cons item items ih =>
      simp only [ofJsonItems?, bind, Option.bind_eq_some_iff, ih, Option.some.injEq,
        List.forall₂_cons_left_iff]
      exact ⟨fun ⟨value, hvalue, values, hvalues, heq⟩ => ⟨value, values, hvalue, hvalues, heq.symm⟩,
        fun ⟨value, values, hvalue, hvalues, heq⟩ => ⟨value, hvalue, values, hvalues, heq.symm⟩⟩

lemma ofJson?_array_eq_some {items : List Json} {v : Value} :
    ofJson? (.array items) = some v ↔
      ∃ values, List.Forall₂ (fun item value => ofJson? item = some value) items values ∧
        .list values = v := by
  simp only [ofJson?, Option.map_eq_some_iff, ofJsonItems?_eq_some]

lemma ofJson?_object_eq_some {members : List (String × Json)} {v : Value} :
    ofJson? (.object members) = some v ↔
      ∃ sql, members = [("raw", .string sql)] ∧ .raw sql = v := by
  simp only [ofJson?, Option.map_eq_some_iff, rawMarker?_eq_some]

/-- **A JSON value becomes a value exactly if all its objects are raw markers**, however deep they
stand. -/
lemma exists_ofJson?_iff {j : Json} : (∃ v, ofJson? j = some v) ↔ j.HasOnlyMarkers := by
  induction j using Json.induction with
  | array items ih =>
      rw [Json.hasOnlyMarkers_array_iff, ← forall₂_congr ih, ← exists_forall₂_iff]
      simp only [ofJson?_array_eq_some]
      exact ⟨fun ⟨_, values, hvalues, _⟩ => ⟨values, hvalues⟩,
        fun ⟨values, hvalues⟩ => ⟨_, values, hvalues, rfl⟩⟩
  | object members =>
      simp only [Json.hasOnlyMarkers_object_iff, ofJson?_object_eq_some]
      exact ⟨fun ⟨_, sql, hsql, _⟩ => ⟨sql, hsql⟩, fun ⟨sql, hsql⟩ => ⟨_, sql, hsql, rfl⟩⟩
  | _ => exact iff_of_true ⟨_, rfl⟩ fun _ h => by cases h

/-! ## The way back -/

lemma toJsonItems_eq (values : List Value) : toJsonItems values = values.map toJson := by
  induction values with
  | nil => rfl
  | cons value values ih => rw [toJsonItems, ih, List.map_cons]

/-- A whole number comes back, be it signed or unsigned. -/
lemma toJson_ofWideInteger (n : WideInteger) : (ofWideInteger n).toJson = .integer n := by
  obtain ⟨n, hlow, hhigh⟩ := n
  by_cases hsigned : n < 9223372036854775808
  · rw [ofWideInteger, if_pos hsigned, toJson, WideInteger.ofInt64]
    simp only [Int64.toInt_ofInt_of_le hlow hsigned]
  · have hnat : n.toNat < 18446744073709551616 := by omega
    have hback : (n.toNat : Int) = n := by omega
    rw [ofWideInteger, if_neg hsigned, toJson, WideInteger.ofUInt64]
    simp only [UInt64.toNat_ofNat_of_lt' hnat, hback]

/-- **What comes back is what was there without its markers**, for finite numbers and for no
others. -/
lemma toJson_eq_unmarked_iff {j : Json} {v : Value} (h : ofJson? j = some v) :
    v.toJson = j.unmarked ↔ j.IsFinite := by
  induction j using Json.induction generalizing v with
  | array items ih =>
      obtain ⟨values, hvalues, rfl⟩ := ofJson?_array_eq_some.mp h
      rw [Json.isFinite_array_iff, ← map_eq_map_iff_of_forall₂ hvalues fun item hitem value =>
        ih item hitem, toJson, toJsonItems_eq, Json.unmarked_array, Json.array.injEq]
  | object members =>
      obtain ⟨sql, rfl, rfl⟩ := ofJson?_object_eq_some.mp h
      exact iff_of_true rfl (Json.isFinite_marker sql)
  | float x =>
      obtain rfl := Option.some.inj h
      rw [Json.isFinite_float_iff]
      show (if x.isFinite then Json.float x else .null) = .float x ↔ _
      split_ifs with hfinite <;> simp [hfinite]
  | integer n =>
      obtain rfl := Option.some.inj h
      exact iff_of_true (toJson_ofWideInteger n) fun _ hx => by cases hx
  | _ =>
      obtain rfl := Option.some.inj h
      exact iff_of_true rfl fun _ hx => by cases hx

/-- **Values from JSON and back.**  A JSON value becomes a value exactly if every object in it, at
any depth, is a raw marker.  It then comes back with the string of each marker in place of the
marker, and so unchanged if it holds no object at all; the numbers must be finite, as they are in
JSON. -/
theorem toJson_eq_unmarked (j : Json) :
    ((∃ v, ofJson? j = some v) ↔
      ∀ members, j.Holds (.object members) → ∃ sql, members = [("raw", .string sql)]) ∧
    (∀ v, ofJson? j = some v → (v.toJson = j.unmarked ↔ j.IsFinite)) ∧
    ((∀ members, ¬ j.Holds (.object members)) →
      ∃ v, ofJson? j = some v ∧ (v.toJson = j ↔ j.IsFinite)) := by
  refine ⟨exists_ofJson?_iff, fun v h => toJson_eq_unmarked_iff h, fun hnone => ?_⟩
  obtain ⟨v, hv⟩ := exists_ofJson?_iff.mpr fun members h => absurd h (hnone members)
  exact ⟨v, hv, by rw [← toJson_eq_unmarked_iff hv, Json.unmarked_of_no_object hnone]⟩

/-- The limits of the whole numbers, a fraction, and a marker in an array in an array. -/
theorem toJson_eq_unmarked_of_limits :
    let least : Json := .integer ⟨-9223372036854775808, by decide⟩
    let greatest : Json := .integer ⟨18446744073709551615, by decide⟩
    let plain : Json := .array [least, greatest, .float 0.5, .null]
    let marked : Json := .array [plain, .object [("raw", .string "NOW()")]]
    (∃ v, ofJson? plain = some v ∧ v.toJson = plain) ∧
      (∃ v, ofJson? marked = some v ∧ v.toJson = .array [plain, .string "NOW()"]) ∧
      ¬ ∃ v, ofJson? (.array [marked, .object [("raw", .null)]]) = some v := by
  intro least greatest plain marked
  have hplain (members : List (String × Json)) : ¬ plain.Holds (.object members) := by
    simp only [plain, least, greatest, Json.holds_array_iff, List.mem_cons, List.not_mem_nil,
      or_false]
    rintro (h | ⟨item, rfl | rfl | rfl | rfl, h⟩) <;> cases h
  have hfinite : plain.IsFinite := by
    intro x h
    simp only [plain, least, greatest, Json.holds_array_iff, List.mem_cons, List.not_mem_nil,
      or_false] at h
    obtain h | ⟨item, rfl | rfl | rfl | rfl, h⟩ := h <;> cases h
    decide
  have hmarked : marked.IsFinite :=
    Json.isFinite_array_iff.mpr (List.forall_mem_cons.mpr ⟨hfinite,
      List.forall_mem_cons.mpr ⟨Json.isFinite_marker _, nofun⟩⟩)
  obtain ⟨v, hv, hback⟩ := (toJson_eq_unmarked plain).2.2 hplain
  obtain ⟨w, hw⟩ : ∃ w, ofJson? marked = some w := ⟨_, rfl⟩
  refine ⟨⟨v, hv, hback.mpr hfinite⟩, ⟨w, hw, ?_⟩, fun h => ?_⟩
  · exact ((toJson_eq_unmarked marked).2.1 w hw).mpr hmarked
  · obtain ⟨sql, hsql⟩ := (toJson_eq_unmarked _).1.mp h [("raw", .null)]
      (.item (List.mem_cons_of_mem _ List.mem_cons_self) (.self _))
    cases hsql

end Value

end SqlAccess
