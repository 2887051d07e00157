import SqlAccess.Proofs.Statement.Alignment

/-!
# Typed data survives the trip through values

A field that is written into a row and read from one passes through `Value` twice, by two families
of instances that know nothing of each other.  **`FieldType.roundTrips_iff`** goes through the types
that are in both families: what is written is accepted where rows are written, and read back as it
was, whatever it is, for every type but one.

**A list of bytes is the exception.**  It is written as any other list is, as a list of numbers,
which no column may be set to and which is not read as bytes.
-/

namespace SqlAccess

/-! ## Round trips -/

/-- Whether data is read back from the value that it is written as, and whether any column may be
set to that value. -/
structure RoundTrips {α : Type} [ToValue α] [OfValue α] (a : α) : Prop where
  ofValue_toValue : ofValue (toValue a) = .ok a
  writtenValue : ∀ key, writtenValue key (toValue a) = .ok (toValue a).sql

lemma ofValue_option {α : Type} [OfValue α] {v : Value} (h : v ≠ .null) :
    (ofValue v : Except ExtractError (Option α)) = (ofValue v : Except ExtractError α).map some := by
  cases v <;> first | rfl | exact absurd rfl h

section

variable {α : Type} [ToValue α] [OfValue α] {a : α}

lemma RoundTrips.of_isList (hread : ofValue (toValue a) = .ok a)
    (hlist : (toValue a).isList = false) : RoundTrips a :=
  ⟨hread, fun _ => writtenValue_eq_ok.mpr ⟨hlist, rfl⟩⟩

lemma RoundTrips.none : RoundTrips (none : Option α) :=
  .of_isList rfl rfl

/-- Optional data makes the trip exactly if the data does, unless that is taken for nothing. -/
lemma RoundTrips.some_iff (hnull : toValue a ≠ .null) : RoundTrips (some a) ↔ RoundTrips a := by
  have hread : ofValue (toValue (some a)) = .ok (some a) ↔ ofValue (toValue a) = .ok a := by
    show ofValue (toValue a) = .ok (some a) ↔ _
    rw [ofValue_option hnull, map_eq_ok]
    simp
  constructor
  · intro h
    exact ⟨hread.mp h.ofValue_toValue, h.writtenValue⟩
  · intro h
    exact ⟨hread.mpr h.ofValue_toValue, h.writtenValue⟩

end

/-! ## Whole numbers -/

/-- Types of whole numbers whose numbers lie in the range and are found again. -/
class LawfulBoundedInteger (α : Type) [BoundedInteger α] : Prop where
  contains : ∀ n : α, (BoundedInteger.range α).Contains (BoundedInteger.toInt n)
  ofInt_toInt : ∀ n : α, BoundedInteger.ofInt (BoundedInteger.toInt n) = n

instance : LawfulBoundedInteger Int8 :=
  ⟨fun n => ⟨n.le_toInt, Int.le_sub_one_of_lt n.toInt_lt⟩, Int8.ofInt_toInt⟩

instance : LawfulBoundedInteger Int16 :=
  ⟨fun n => ⟨n.le_toInt, Int.le_sub_one_of_lt n.toInt_lt⟩, Int16.ofInt_toInt⟩

instance : LawfulBoundedInteger Int32 :=
  ⟨fun n => ⟨n.le_toInt, Int.le_sub_one_of_lt n.toInt_lt⟩, Int32.ofInt_toInt⟩

instance : LawfulBoundedInteger Int64 :=
  ⟨fun n => ⟨n.le_toInt, Int.le_sub_one_of_lt n.toInt_lt⟩, Int64.ofInt_toInt⟩

instance : LawfulBoundedInteger UInt8 :=
  ⟨fun n => ⟨Int.natCast_nonneg _, Int.ofNat_le.mpr (Nat.le_sub_one_of_lt n.toNat_lt)⟩,
    fun _ => UInt8.ofNat_toNat⟩

instance : LawfulBoundedInteger UInt16 :=
  ⟨fun n => ⟨Int.natCast_nonneg _, Int.ofNat_le.mpr (Nat.le_sub_one_of_lt n.toNat_lt)⟩,
    fun _ => UInt16.ofNat_toNat⟩

instance : LawfulBoundedInteger UInt32 :=
  ⟨fun n => ⟨Int.natCast_nonneg _, Int.ofNat_le.mpr (Nat.le_sub_one_of_lt n.toNat_lt)⟩,
    fun _ => UInt32.ofNat_toNat⟩

instance : LawfulBoundedInteger UInt64 :=
  ⟨fun n => ⟨Int.natCast_nonneg _, Int.ofNat_le.mpr (Nat.le_sub_one_of_lt n.toNat_lt)⟩,
    fun _ => UInt64.ofNat_toNat⟩

section

variable {α : Type} [BoundedInteger α] [LawfulBoundedInteger α]

lemma ofValue_of_integer {v : Value} {n : α}
    (h : v.integer (BoundedInteger.name α) (BoundedInteger.range α) =
      ((BoundedInteger.range α).fit (BoundedInteger.toInt n)).mapError .integer) :
    ofValue v = .ok n := by
  have hfit := IntegerRange.fit_eq_ok_iff.mpr ⟨LawfulBoundedInteger.contains n, rfl⟩
  exact map_eq_ok.mpr ⟨_, h.trans (mapError_eq_ok.mpr hfit), LawfulBoundedInteger.ofInt_toInt n⟩

variable [ToValue α] {n : α}

lemma roundTrips_signed {word : Int64} (hvalue : toValue n = .int word)
    (hword : word.toInt = BoundedInteger.toInt n) : RoundTrips n := by
  refine .of_isList ?_ (by rw [hvalue]; rfl)
  rw [hvalue]
  refine ofValue_of_integer ?_
  rw [Value.integer, hword]

lemma roundTrips_unsigned {word : UInt64} (hvalue : toValue n = .uint word)
    (hword : (word.toNat : Int) = BoundedInteger.toInt n) : RoundTrips n := by
  refine .of_isList ?_ (by rw [hvalue]; rfl)
  rw [hvalue]
  refine ofValue_of_integer ?_
  rw [Value.integer, hword]

end

/-! ## The types of fields -/

/-- The types that fields are written from and read as, apart from optional ones. -/
inductive FieldType where
  | int8
  | int16
  | int32
  | int64
  | uint8
  | uint16
  | uint32
  | uint64
  | bool
  | text
  | bytes
  | date
  | dateTime
  | instant
deriving DecidableEq, Repr

/-- A type with the way it is written and the way it is read. -/
structure StoredType where
  Data : Type
  [writes : ToValue Data]
  [reads : OfValue Data]

attribute [instance] StoredType.writes StoredType.reads

/-- The type that is meant, with its instances. -/
def FieldType.stored : FieldType → StoredType
  | .int8 => ⟨Int8⟩
  | .int16 => ⟨Int16⟩
  | .int32 => ⟨Int32⟩
  | .int64 => ⟨Int64⟩
  | .uint8 => ⟨UInt8⟩
  | .uint16 => ⟨UInt16⟩
  | .uint32 => ⟨UInt32⟩
  | .uint64 => ⟨UInt64⟩
  | .bool => ⟨Bool⟩
  | .text => ⟨String⟩
  | .bytes => ⟨List UInt8⟩
  | .date => ⟨Date⟩
  | .dateTime => ⟨DateTime⟩
  | .instant => ⟨UtcDateTime⟩

lemma FieldType.toValue_ne_null (t : FieldType) (a : t.stored.Data) : toValue a ≠ .null := by
  cases t <;> exact nofun

/-- Data of all types but that of bytes makes the trip. -/
lemma FieldType.roundTrips {t : FieldType} (h : t ≠ .bytes) (a : t.stored.Data) :
    RoundTrips a := by
  cases t with
  | int8 => exact (fun n => roundTrips_signed rfl n.toInt_toInt64 : ∀ n : Int8, RoundTrips n) a
  | int16 => exact (fun n => roundTrips_signed rfl n.toInt_toInt64 : ∀ n : Int16, RoundTrips n) a
  | int32 => exact (fun n => roundTrips_signed rfl n.toInt_toInt64 : ∀ n : Int32, RoundTrips n) a
  | int64 => exact (fun _ => roundTrips_signed rfl rfl : ∀ n : Int64, RoundTrips n) a
  | uint8 => exact (fun _ => roundTrips_unsigned rfl rfl : ∀ n : UInt8, RoundTrips n) a
  | uint16 => exact (fun _ => roundTrips_unsigned rfl rfl : ∀ n : UInt16, RoundTrips n) a
  | uint32 => exact (fun _ => roundTrips_unsigned rfl rfl : ∀ n : UInt32, RoundTrips n) a
  | uint64 => exact (fun _ => roundTrips_unsigned rfl rfl : ∀ n : UInt64, RoundTrips n) a
  | bool => exact .of_isList rfl rfl
  | text => exact .of_isList rfl rfl
  | bytes => exact absurd rfl h
  | date => exact .of_isList rfl rfl
  | dateTime => exact .of_isList rfl rfl
  | instant => exact .of_isList rfl rfl

/-- Bytes are written as a list of numbers, which is not read as bytes and set to no column. -/
lemma bytes_refused (b : List UInt8) :
    ofValue (toValue b) = (.error (.unexpected "bytes" (toValue b)) : Except _ (List UInt8)) ∧
      ∀ key, writtenValue key (toValue b) = .error (.listValue key) :=
  ⟨rfl, fun _ => rfl⟩

lemma FieldType.roundTrips_iff_ne_bytes (t : FieldType) (a : t.stored.Data) :
    RoundTrips a ↔ t ≠ .bytes := by
  refine ⟨fun h heq => ?_, fun h => roundTrips h a⟩
  subst heq
  have hread := (bytes_refused a).1.symm.trans h.ofValue_toValue
  cases hread

/-- **Round trips through values.**  Data of every type that a field may have is read back from what
it is written as, and may be set to a column, be it optional or not; except for bytes, of which
none make the trip. -/
theorem FieldType.roundTrips_iff (t : FieldType) (a : t.stored.Data) :
    (RoundTrips a ↔ t ≠ .bytes) ∧ (RoundTrips (some a) ↔ t ≠ .bytes) ∧
      RoundTrips (none : Option t.stored.Data) := by
  have ha := t.roundTrips_iff_ne_bytes a
  exact ⟨ha, (RoundTrips.some_iff (t.toValue_ne_null a)).trans ha, RoundTrips.none⟩

end SqlAccess
