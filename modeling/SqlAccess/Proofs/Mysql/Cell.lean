import Mathlib.Algebra.Group.Nat.Defs
import SqlAccess.Mysql.Cell
import SqlAccess.Proofs.Number.Characters
import SqlAccess.Proofs.Number.Digits
import SqlAccess.Proofs.Text.Bytes
import SqlAccess.Proofs.Text.Search
import SqlAccess.Proofs.Value.RoundTrip

/-!
# Cells of ASCII text, and whole numbers in them

A cell of ASCII text is what the column reads of the text, or the text itself if the column reads
nothing of it (`ColumnInfo.decode_ascii`).

A whole number that a server sends passes two readers.  The column turns the text of the cell into a
signed or an unsigned word, or leaves it as text if the number does not fit; the type that is wanted
then reads that value.  The same type also reads the text by itself.

**No way loses a number or changes one.**  Whatever the column makes of a number, the value spells
the number (`Value.Spells`), and of a value that spells a number every type reads this number if it
fits, and nothing else (`Value.Spells.toOption_integer`).  So both ways agree for all columns and
all types.

* `WordType` — the types of whole numbers.
* **`ColumnInfo.decode_integer`** — what a column makes of a number, and what every type reads of
  it.
-/

namespace SqlAccess

/-! ## ASCII text -/

/-- **A cell of ASCII text is what the column reads of it**, or else the text. -/
lemma ColumnInfo.decode_ascii {c : ColumnInfo} {text : List Char} (hbinary : c.isBinary = false)
    (htext : Text.IsAscii text) :
    c.decode (some (Text.utf8Encode (String.ofList text))) =
      (c.read? text).getD (.text (String.ofList text)) := by
  have hbytes : Text.utf8Decode (Text.utf8Encode (String.ofList text)) = .ok (String.ofList text) :=
    Text.utf8Decode_ascii (by rwa [String.toList_ofList])
  rw [decode, decodeBytes, hbinary, hbytes]
  simp only [Bool.false_eq_true, if_false, String.toList_ofList]

lemma isAscii_of_isDigit {c : Char} (h : c.isDigit = true) : c.toNat < 128 := by
  have hc := toNat_of_isDigit h
  omega

/-! ## The text of a number -/

lemma isAscii_intText (n : Int) : Text.IsAscii (Text.intText n) :=
  forall_mem_intText (fun _ => isAscii_of_isDigit) (by decide) n

lemma trimList_intText (n : Int) : Text.trimList (Text.intText n) = Text.intText n :=
  Text.trimList_eq_self (forall_mem_intText (fun _ => isBlank_of_isDigit) rfl n)

lemma IntegerRange.toOption_read_intText (range : IntegerRange) (n : Int) :
    (range.read (Text.intText n)).toOption = if range.Contains n then some n else none := by
  refine Option.ext fun m => ?_
  rw [toOption_eq_some, read_intText, Option.ite_none_right_eq_some, Option.some_inj, eq_comm]

lemma IntegerRange.toOption_fit (range : IntegerRange) (n : Int) :
    (range.fit n).toOption = if range.Contains n then some n else none := by
  refine Option.ext fun m => ?_
  rw [toOption_eq_some, fit_eq_ok_iff, Option.ite_none_right_eq_some, Option.some_inj, eq_comm]

/-! ## Types of whole numbers -/

/-- The types of whole numbers. -/
inductive WordType where
  | int8
  | int16
  | int32
  | int64
  | uint8
  | uint16
  | uint32
  | uint64
deriving DecidableEq, Repr

namespace WordType

/-- The numbers of the type. -/
def Data : WordType → Type
  | .int8 => Int8
  | .int16 => Int16
  | .int32 => Int32
  | .int64 => Int64
  | .uint8 => UInt8
  | .uint16 => UInt16
  | .uint32 => UInt32
  | .uint64 => UInt64

instance : (t : WordType) → BoundedInteger t.Data
  | .int8 => inferInstanceAs (BoundedInteger Int8)
  | .int16 => inferInstanceAs (BoundedInteger Int16)
  | .int32 => inferInstanceAs (BoundedInteger Int32)
  | .int64 => inferInstanceAs (BoundedInteger Int64)
  | .uint8 => inferInstanceAs (BoundedInteger UInt8)
  | .uint16 => inferInstanceAs (BoundedInteger UInt16)
  | .uint32 => inferInstanceAs (BoundedInteger UInt32)
  | .uint64 => inferInstanceAs (BoundedInteger UInt64)

instance : (t : WordType) → LawfulBoundedInteger t.Data
  | .int8 => inferInstanceAs (LawfulBoundedInteger Int8)
  | .int16 => inferInstanceAs (LawfulBoundedInteger Int16)
  | .int32 => inferInstanceAs (LawfulBoundedInteger Int32)
  | .int64 => inferInstanceAs (LawfulBoundedInteger Int64)
  | .uint8 => inferInstanceAs (LawfulBoundedInteger UInt8)
  | .uint16 => inferInstanceAs (LawfulBoundedInteger UInt16)
  | .uint32 => inferInstanceAs (LawfulBoundedInteger UInt32)
  | .uint64 => inferInstanceAs (LawfulBoundedInteger UInt64)

/-- The whole number that a number of the type is. -/
def toInt {t : WordType} (m : t.Data) : Int := BoundedInteger.toInt m

lemma toNat_of_contains {bits : Nat} {n : Int} (h : (IntegerRange.unsigned bits).Contains n) :
    n.toNat < 2 ^ bits ∧ (n.toNat : Int) = n := by
  obtain ⟨hbelow, habove⟩ := h
  have hpos : 0 < 2 ^ bits := Nat.pow_pos (by decide)
  have hbelow : 0 ≤ n := by simpa [IntegerRange.unsigned] using hbelow
  have habove : n ≤ ((2 ^ bits - 1 : Nat) : Int) := habove
  omega

/-- A number of the range is found again in the type. -/
lemma toInt_ofInt (t : WordType) {n : Int} (h : (BoundedInteger.range t.Data).Contains n) :
    toInt (BoundedInteger.ofInt n : t.Data) = n := by
  have hunsigned {bits word : Nat} (hbits : (IntegerRange.unsigned bits).Contains n)
      (hword : n.toNat < 2 ^ bits → word = n.toNat) : (word : Int) = n := by
    obtain ⟨hlt, hcast⟩ := toNat_of_contains hbits
    rw [hword hlt, hcast]
  cases t with
  | int8 => exact Int8.toInt_ofInt_of_le h.1 (Int.lt_of_le_sub_one h.2)
  | int16 => exact Int16.toInt_ofInt_of_le h.1 (Int.lt_of_le_sub_one h.2)
  | int32 => exact Int32.toInt_ofInt_of_le h.1 (Int.lt_of_le_sub_one h.2)
  | int64 => exact Int64.toInt_ofInt_of_le h.1 (Int.lt_of_le_sub_one h.2)
  | uint8 => exact hunsigned h UInt8.toNat_ofNat_of_lt'
  | uint16 => exact hunsigned h UInt16.toNat_ofNat_of_lt'
  | uint32 => exact hunsigned h UInt32.toNat_ofNat_of_lt'
  | uint64 => exact hunsigned h UInt64.toNat_ofNat_of_lt'

/-- The range of the type is that of its numbers. -/
lemma contains_iff (t : WordType) {n : Int} :
    (BoundedInteger.range t.Data).Contains n ↔ ∃ m : t.Data, toInt m = n := by
  constructor
  · exact fun h => ⟨_, t.toInt_ofInt h⟩
  · rintro ⟨m, rfl⟩
    exact LawfulBoundedInteger.contains m

end WordType

/-! ## Values that spell a number -/

/-- The values that a column may make of the number `n`: a word, or the text of the number. -/
inductive Value.Spells (n : Int) : Value → Prop where
  | int {word : Int64} (h : word.toInt = n) : Spells n (.int word)
  | uint {word : UInt64} (h : word.toNat = n) : Spells n (.uint word)
  | text : Spells n (.text (String.ofList (Text.intText n)))

/-- **A number that is spelled is read if it lies in the range**, and nothing else is read. -/
lemma Value.Spells.toOption_integer {n : Int} {v : Value} (h : v.Spells n) (name : String)
    (range : IntegerRange) :
    (v.integer name range).toOption = if range.Contains n then some n else none := by
  cases h with
  | int h =>
      rw [← h, ← range.toOption_fit]
      exact toOption_mapError
  | uint h =>
      rw [← h, ← range.toOption_fit]
      exact toOption_mapError
  | text =>
      rw [Value.integer, toOption_mapError, String.toList_ofList, trimList_intText,
        range.toOption_read_intText]

/-- What a type reads of a value that spells a number. -/
lemma Value.Spells.toOption_ofValue {n : Int} {v : Value} (h : v.Spells n) (t : WordType) :
    (ofValue v : Except ExtractError t.Data).toOption =
      if (BoundedInteger.range t.Data).Contains n then some (BoundedInteger.ofInt n) else none := by
  show ((v.integer _ _).map BoundedInteger.ofInt).toOption = _
  rw [toOption_map, h.toOption_integer]
  split_ifs <;> rfl

/-- **A type reads the number if it has it**, and fails if it has not. -/
lemma Value.Spells.ofValue {n : Int} {v : Value} (h : v.Spells n) (t : WordType) :
    (∀ m : t.Data, WordType.toInt m = n → (ofValue v : Except ExtractError t.Data) = .ok m) ∧
      ((∀ m : t.Data, WordType.toInt m ≠ n) →
        ∃ e, (ofValue v : Except ExtractError t.Data) = .error e) := by
  have hread := h.toOption_ofValue t
  constructor
  · rintro m rfl
    rw [if_pos (t.contains_iff.mpr ⟨m, rfl⟩)] at hread
    rw [toOption_eq_some.mp hread]
    exact congrArg Except.ok (LawfulBoundedInteger.ofInt_toInt m)
  · intro hnone
    have hout : ¬(BoundedInteger.range t.Data).Contains n := fun hin =>
      let ⟨m, hm⟩ := t.contains_iff.mp hin
      hnone m hm
    rw [if_neg hout] at hread
    cases hvalue : (SqlAccess.ofValue v : Except ExtractError t.Data) with
    | error e => exact ⟨e, rfl⟩
    | ok m =>
        rw [hvalue] at hread
        cases hread

/-! ## What a column makes of a number -/

namespace ColumnInfo

variable {c : ColumnInfo}

/-- The numbers that a column takes for words. -/
def wordRange (c : ColumnInfo) : IntegerRange :=
  if c.isUnsigned then .unsigned 64 else .signed 63

/-- The word of a number. -/
def word (c : ColumnInfo) (n : Int) : Value :=
  if c.isUnsigned then .uint (.ofNat n.toNat) else .int (.ofInt n)

lemma integer?_eq (c : ColumnInfo) (text : List Char) :
    c.integer? text = (c.wordRange.read text).toOption.map c.word := by
  unfold integer? wordRange word
  split_ifs <;> rfl

/-- **A number becomes a word if the column has one for it, and else it stays text.** -/
lemma decode_intText (hform : c.form = .integer) (n : Int) :
    c.decode (some (Text.utf8Encode (String.ofList (Text.intText n)))) =
      if c.wordRange.Contains n then c.word n else .text (String.ofList (Text.intText n)) := by
  have hread : c.read? (Text.intText n) =
      if c.wordRange.Contains n then some (c.word n) else none := by
    rw [read?, hform]
    show c.integer? _ = _
    rw [integer?_eq, IntegerRange.toOption_read_intText]
    split_ifs <;> rfl
  rw [decode_ascii (by simp [isBinary, hform]) (isAscii_intText n), hread]
  split_ifs <;> rfl

/-- Either way the number stays what it is. -/
lemma spells_word (c : ColumnInfo) (n : Int) :
    (if c.wordRange.Contains n then c.word n else
      .text (String.ofList (Text.intText n))).Spells n := by
  split_ifs with hin
  · unfold word
    unfold wordRange at hin
    split_ifs at hin ⊢ with hunsigned
    · exact .uint (WordType.toInt_ofInt .uint64 hin)
    · exact .int (WordType.toInt_ofInt .int64 hin)
  · exact .text

/-- A signed column has the signed words. -/
lemma decode_signed (hform : c.form = .integer) (hsigned : c.isUnsigned = false) (n : Int) :
    let s := String.ofList (Text.intText n)
    (∀ word : Int64, word.toInt = n → c.decode (some (Text.utf8Encode s)) = .int word) ∧
      ((∀ word : Int64, word.toInt ≠ n) → c.decode (some (Text.utf8Encode s)) = .text s) := by
  have hrange : c.wordRange = .signed 63 := by simp [wordRange, hsigned]
  have hword : c.word n = .int (.ofInt n) := by simp [word, hsigned]
  have hdecode := decode_intText hform n
  rw [hrange, hword] at hdecode
  constructor
  · rintro word rfl
    have hin : (IntegerRange.signed 63).Contains word.toInt := LawfulBoundedInteger.contains word
    rw [hdecode, if_pos hin, Int64.ofInt_toInt]
  · intro hnone
    have hout : ¬(IntegerRange.signed 63).Contains n := fun hin =>
      let ⟨word, hn⟩ := (WordType.contains_iff .int64).mp hin
      hnone word hn
    rw [hdecode, if_neg hout]

/-- An unsigned column has the unsigned words. -/
lemma decode_unsigned (hform : c.form = .integer) (hunsigned : c.isUnsigned = true) (n : Int) :
    let s := String.ofList (Text.intText n)
    (∀ word : UInt64, word.toNat = n → c.decode (some (Text.utf8Encode s)) = .uint word) ∧
      ((∀ word : UInt64, (word.toNat : Int) ≠ n) →
        c.decode (some (Text.utf8Encode s)) = .text s) := by
  have hrange : c.wordRange = .unsigned 64 := by simp [wordRange, hunsigned]
  have hword : c.word n = .uint (.ofNat n.toNat) := by simp [word, hunsigned]
  have hdecode := decode_intText hform n
  rw [hrange, hword] at hdecode
  constructor
  · rintro word rfl
    have hin : (IntegerRange.unsigned 64).Contains word.toNat := LawfulBoundedInteger.contains word
    rw [hdecode, if_pos hin, Int.toNat_natCast, UInt64.ofNat_toNat]
  · intro hnone
    have hout : ¬(IntegerRange.unsigned 64).Contains n := fun hin =>
      let ⟨word, hn⟩ := (WordType.contains_iff .uint64).mp hin
      hnone word hn
    rw [hdecode, if_neg hout]

end ColumnInfo

/-- **Whole numbers never wrap.**  A signed column makes a signed word of a number that is one and
an unsigned column an unsigned word; a number that is no such word stays the text that it is.  Of
the value that the column makes, every type of whole numbers reads the number if it has it and fails
otherwise, and so it does of the text without the column. -/
theorem ColumnInfo.decode_integer {c : ColumnInfo} (hform : c.form = .integer) (n : Int) :
    let s := String.ofList (Text.intText n)
    let v := c.decode (some (Text.utf8Encode s))
    (c.isUnsigned = false → (∀ word : Int64, word.toInt = n → v = .int word) ∧
      ((∀ word : Int64, word.toInt ≠ n) → v = .text s)) ∧
    (c.isUnsigned = true → (∀ word : UInt64, word.toNat = n → v = .uint word) ∧
      ((∀ word : UInt64, (word.toNat : Int) ≠ n) → v = .text s)) ∧
    ∀ t : WordType,
      (∀ m : t.Data, WordType.toInt m = n → (ofValue v : Except ExtractError t.Data) = .ok m) ∧
      ((∀ m : t.Data, WordType.toInt m ≠ n) →
        ∃ e, (ofValue v : Except ExtractError t.Data) = .error e) ∧
      (ofValue v : Except ExtractError t.Data).toOption =
        (ofValue (.text s) : Except ExtractError t.Data).toOption := by
  intro s v
  refine ⟨fun hsigned => decode_signed hform hsigned n,
    fun hunsigned => decode_unsigned hform hunsigned n, fun t => ?_⟩
  have hspells : v.Spells n := by
    rw [show v = _ from decode_intText hform n]
    exact spells_word c n
  obtain ⟨hreads, hfails⟩ := hspells.ofValue t
  refine ⟨hreads, hfails, ?_⟩
  rw [hspells.toOption_ofValue, Value.Spells.text.toOption_ofValue]

/-- An unsigned column has a word for `2⁶³`, which no signed word is. -/
theorem ColumnInfo.decode_integer_of_unsigned :
    let c : ColumnInfo := { name := "n", type := 8, charset := 63, flags := 32 }
    let v := c.decode (some (Text.utf8Encode (String.ofList (Text.intText 9223372036854775808))))
    v = .uint 9223372036854775808 ∧
      (ofValue v : Except ExtractError UInt64) = .ok 9223372036854775808 ∧
      ∃ e, (ofValue v : Except ExtractError Int64) = .error e := by
  intro c v
  have hform : c.form = .integer := rfl
  have hcolumn : c.isUnsigned = true := show Nat.testBit 32 5 = true by decide
  obtain ⟨-, hunsigned, htypes⟩ := ColumnInfo.decode_integer hform 9223372036854775808
  refine ⟨(hunsigned hcolumn).1 9223372036854775808 rfl,
    (htypes .uint64).1 (9223372036854775808 : UInt64) rfl, (htypes .int64).2.1 fun m hm => ?_⟩
  have hlt : m.toInt < 2 ^ 63 := m.toInt_lt
  have hm : m.toInt = 2 ^ 63 := hm
  omega

end SqlAccess
