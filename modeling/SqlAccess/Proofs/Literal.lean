import SqlAccess.Literal
import SqlAccess.Proofs.Number.Characters
import SqlAccess.Proofs.Sql.Sealed

/-!
# Literals are sealed

Whatever a value holds, its literal begins and ends where it should: text of any kind, bytes, dates,
and numbers with or without a sign.  The same holds of names inside backticks.

Two facts carry this.  Escaping leaves no quote and no backslash by itself in front of the closing
mark (`pastMark?_literal`), and doubling leaves no backtick by itself (`pastMark?_doubled`).  All
else is made of digits, letters and points, which are calm, and of one minus sign at most, with a
digit behind it.

**Raw SQL is the exception.**  It is written as it is, so nothing is said of it here; inside a list
it is left out, and does no harm there.
-/

namespace SqlAccess

open Sql

/-! ## Text -/

/-- A character inside single quotes is written behind a backslash, or is harmless. -/
lemma literalChar_cases (c : Char) :
    (∃ d, literalChar c = ['\\', d]) ∨ literalChar c = [c] ∧ c ≠ '\'' ∧ c ≠ '\\' := by
  unfold literalChar
  split_ifs <;> simp_all

/-- **Escaped text ends with the mark behind it**, whatever it holds. -/
theorem pastMark?_literal (inside : List Char) {text : List Char}
    (htext : text.head? ≠ some '\'') :
    pastMark? '\'' (inside.flatMap literalChar ++ '\'' :: text) = some text := by
  induction inside with
  | nil => exact pastMark?_mark (by decide) htext
  | cons c inside ih =>
      rw [List.flatMap_cons, List.append_assoc]
      rcases literalChar_cases c with ⟨d, hd⟩ | ⟨hc, hquote, hescape⟩
      · rw [hd]
        simpa [pastMark?, backtick] using ih
      · rw [hc, List.singleton_append, pastMark?_cons hquote fun h => absurd h hescape]
        exact ih

lemma sealed_textLiteral (text : List Char) : Sealed (textLiteral text) :=
  .piece rfl (pastMark?_literal text (by simp)) .nil

/-- Text in single quotes that needs no escapes is sealed. -/
lemma sealed_simple {inside : List Char} (hinside : ∀ c ∈ inside, c ≠ '\'' ∧ c ≠ '\\') :
    Sealed ('\'' :: inside ++ ['\'']) :=
  .piece rfl (pastMark?_simple (by decide) hinside (by simp)) .nil

/-! ## Names inside backticks -/

/-- **A name with its backticks doubled ends with the mark behind it**, whatever it holds. -/
theorem pastMark?_doubled (name : List Char) {text : List Char}
    (htext : text.head? ≠ some backtick) :
    pastMark? backtick (doubleBackticks name ++ backtick :: text) = some text := by
  induction name with
  | nil => exact pastMark?_mark (by decide) htext
  | cons c name ih =>
      by_cases hc : c = backtick
      · subst hc
        simpa [doubleBackticks, pastMark?] using ih
      · simp only [doubleBackticks, if_neg hc, List.cons_append]
        rw [pastMark?_cons hc fun _ => rfl]
        exact ih

lemma sealed_backticked (name : List Char) : Sealed (backticked name) :=
  .piece rfl (pastMark?_doubled name (by simp)) .nil

/-! ## Numbers -/

lemma isCalm_of_isDigit {c : Char} (h : c.isDigit = true) : isCalm c = true :=
  isCalm_of_all (by decide) h

lemma calm_toDigits (n : Nat) : Calm (Nat.toDigits 10 n) :=
  forall_mem_toDigits (fun _ => isCalm_of_isDigit) n

/-- A minus sign with a calm text behind it is sealed. -/
lemma sealed_negative {word : List Char} (hne : word ≠ []) (hword : Calm word) :
    Sealed ('-' :: word) := by
  cases word with
  | nil => exact absurd rfl hne
  | cons c word =>
      have hc := (isCalm_iff.mp (hword c List.mem_cons_self)).2.2.2.1
      exact .minus hc (.ofCalm hword)

lemma sealed_intText (n : Int) : Sealed (Text.intText n) := by
  unfold Text.intText
  split_ifs
  · exact sealed_negative Nat.toDigits_ne_nil (calm_toDigits _)
  · exact .ofCalm (calm_toDigits _)

lemma positional_ne_nil (d : Decimal) : d.positional false ≠ [] := by
  unfold Decimal.positional
  split_ifs <;> simp [Nat.toDigits_ne_nil]

lemma magnitudeText_ne_nil (format : BinaryFormat) (magnitude : Magnitude) :
    magnitudeText format plainStyle magnitude ≠ [] := by
  cases magnitude with
  | nan => simp [magnitudeText]
  | infinite => simp [magnitudeText]
  | finite m q => exact positional_ne_nil _

lemma sealed_floatText (x : Float) : Sealed (floatText x).toList := by
  unfold floatText binaryText
  generalize BinaryFormat.double.decode x.toBits.toNat = magnitude
  have hcalm : Calm (magnitudeText .double plainStyle magnitude) :=
    forall_mem_magnitudeText (fun _ => isCalm_of_isDigit) rfl (by decide) .double magnitude
  have hsigned : Sealed (if BinaryFormat.double.isNegative x.toBits.toNat then
      '-' :: magnitudeText .double plainStyle magnitude
      else magnitudeText .double plainStyle magnitude) := by
    split_ifs
    · exact sealed_negative (magnitudeText_ne_nil _ _) hcalm
    · exact .ofCalm hcalm
  cases magnitude with
  | nan => simpa using Sealed.ofCalm hcalm
  | infinite => simpa using hsigned
  | finite m q => simpa using hsigned

/-! ## Bytes, dates and times -/

lemma simple_of_isDigit (c : Char) (h : c.isDigit = true) : c ≠ '\'' ∧ c ≠ '\\' := by
  constructor <;> rintro rfl <;> simp at h

lemma sealed_bytesLiteral (bytes : List UInt8) : Sealed (bytesLiteral bytes) :=
  .calm (by decide) (sealed_simple (forall_mem_hexBytes (by decide) bytes))

lemma sealed_date (d : Date) : Sealed ('\'' :: d.text ++ ['\'']) :=
  sealed_simple (forall_mem_date simple_of_isDigit (by decide) d)

lemma sealed_dateTime (dt : DateTime) : Sealed ('\'' :: dt.text ' ' milliFraction ++ ['\'']) :=
  sealed_simple (forall_mem_dateTime simple_of_isDigit (by decide) dt)

/-! ## Values -/

/-- Whether a value is SQL that is written as it is. -/
def Value.isRaw : Value → Bool
  | .raw _ => true
  | _ => false

lemma sealed_scalar {value : Value} (h : value.isScalar = true) : Sealed value.literal := by
  cases value with
  | null => exact .ofCalm (by simp only [Value.literal]; decide)
  | bool b => cases b <;> exact .ofCalm (by simp only [Value.literal]; decide)
  | int n => simpa only [Value.literal] using sealed_intText _
  | uint n => simpa only [Value.literal] using sealed_intText _
  | float x =>
      rw [Value.literal]
      split_ifs
      · exact sealed_floatText x
      · exact .ofCalm (by decide)
  | text s => simpa only [Value.literal] using sealed_textLiteral _
  | bytes b => simpa only [Value.literal] using sealed_bytesLiteral b
  | date d => simpa only [Value.literal] using sealed_date d
  | dateTime dt => simpa only [Value.literal] using sealed_dateTime dt
  | list items => simp [Value.isScalar] at h
  | raw sql => simp [Value.isScalar] at h

/-- Of a list only scalars are written. -/
lemma sealed_scalarLiterals (items : List Value) :
    ∀ literal ∈ Value.scalarLiterals items, Sealed literal := by
  induction items with
  | nil => simp [Value.scalarLiterals]
  | cons item items ih =>
      rw [Value.scalarLiterals]
      split_ifs with h
      · exact List.forall_mem_cons.mpr ⟨sealed_scalar h, ih⟩
      · exact ih

/-- **Literals are sealed**, those of lists included, but for raw SQL. -/
theorem sealed_literal {value : Value} (h : value.isRaw = false) : Sealed value.literal := by
  cases value with
  | list items =>
      rw [Value.literal]
      exact .intercalate (by simp) (by decide) (sealed_scalarLiterals items)
  | raw sql => simp [Value.isRaw] at h
  | _ => exact sealed_scalar rfl

/-! ## Words that are SQL -/

/-- No character that is not calm is a letter, so its case does not hide it. -/
lemma isCalm_of_toLower {c : Char} (h : isCalm c.toLower = true) : isCalm c = true :=
  isCalm_of_all (p := fun d => isCalm d.toLower) (by decide) h

lemma calm_of_isSqlWord {s : String} (h : isSqlWord s = true) : Calm s.toList := by
  have hwords : ∀ word ∈ sqlWords, Calm word.toList := by decide
  intro c hc
  have hlower := hwords (Text.asciiLower s) (by simpa [isSqlWord] using h)
  rw [Text.asciiLower, String.toList_ofList] at hlower
  exact isCalm_of_toLower (hlower c.toLower (List.mem_map_of_mem hc))

/-- Where a word that is SQL stands for itself, literals are sealed too. -/
lemma sealed_literalOrWord {value : Value} (h : value.isRaw = false) :
    Sealed value.literalOrWord := by
  cases value with
  | text s =>
      rw [Value.literalOrWord]
      split_ifs with hword
      · exact .ofCalm (calm_of_isSqlWord hword)
      · exact sealed_textLiteral _
  | _ => exact sealed_literal h

/-- What stands between the parentheses of a membership test is sealed. -/
lemma sealed_memberLiterals {value : Value} (h : value.isRaw = false) :
    Sealed value.memberLiterals := by
  cases value with
  | list items => exact sealed_literal h
  | _ => exact sealed_literalOrWord h

lemma sealed_membersSql {value : Value} (h : value.isRaw = false) {members : String}
    (hmembers : value.membersSql? = some members) : Sealed members.toList := by
  simp only [Value.membersSql?] at hmembers
  split_ifs at hmembers
  obtain rfl := Option.some.inj hmembers
  rw [String.toList_ofList]
  exact .calm rfl ((sealed_memberLiterals h).append (.calm rfl .nil) rfl)

end SqlAccess
