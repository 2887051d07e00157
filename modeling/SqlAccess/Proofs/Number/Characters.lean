import Mathlib.Data.List.Basic
import Mathlib.Tactic.Common
import SqlAccess.Calendar.Text
import SqlAccess.Number.FloatText

/-!
# The characters of numbers, bytes and dates

Numbers, dates and times are written with digits and a few signs.  So whatever holds of digits and
of these signs holds of all characters of such a text, and there is one lemma for each kind of text
that says so.
-/

namespace SqlAccess

section Digits

variable {p : Char → Prop} (hdigit : ∀ c, c.isDigit = true → p c)

include hdigit

lemma forall_mem_toDigits (n : Nat) : ∀ c ∈ Nat.toDigits 10 n, p c := fun c hc =>
  hdigit c (Nat.isDigit_of_mem_toDigits (by decide) (by decide) hc)

lemma forall_mem_zeros (n : Nat) : ∀ c ∈ List.replicate n '0', p c := fun c hc => by
  obtain rfl := List.eq_of_mem_replicate hc
  exact hdigit '0' (by decide)

lemma forall_mem_paddedNat (width n : Nat) : ∀ c ∈ Text.paddedNat width n, p c :=
  List.forall_mem_append.mpr ⟨forall_mem_zeros hdigit _, forall_mem_toDigits hdigit _⟩

/-! ## Numbers -/

lemma forall_mem_intText (hminus : p '-') (n : Int) : ∀ c ∈ Text.intText n, p c := by
  unfold Text.intText
  split_ifs
  · exact List.forall_mem_cons.mpr ⟨hminus, forall_mem_toDigits hdigit _⟩
  · exact forall_mem_toDigits hdigit _

lemma forall_mem_positional (hpoint : p '.') (d : Decimal) : ∀ c ∈ d.positional false, p c := by
  have hdigits := forall_mem_toDigits hdigit d.coefficient
  simp only [Decimal.positional, Bool.false_eq_true, if_false, List.append_nil]
  split_ifs
  · exact List.forall_mem_append.mpr ⟨hdigits, forall_mem_zeros hdigit _⟩
  · have hpadded : ∀ n, ∀ c ∈ List.replicate n '0' ++ Nat.toDigits 10 d.coefficient, p c :=
      fun n => List.forall_mem_append.mpr ⟨forall_mem_zeros hdigit n, hdigits⟩
    refine List.forall_mem_append.mpr ⟨fun c hc => hpadded _ c (List.mem_of_mem_take hc), ?_⟩
    exact List.forall_mem_cons.mpr ⟨hpoint, fun c hc => hpadded _ c (List.mem_of_mem_drop hc)⟩

lemma forall_mem_magnitudeText (hpoint : p '.')
    (hletters : p 'N' ∧ p 'a' ∧ p 'i' ∧ p 'n' ∧ p 'f') (format : BinaryFormat)
    (magnitude : Magnitude) : ∀ c ∈ magnitudeText format plainStyle magnitude, p c := by
  obtain ⟨hN, ha, hi, hn, hf⟩ := hletters
  cases magnitude with
  | nan => simp [magnitudeText, hN, ha]
  | infinite => simp [magnitudeText, hi, hn, hf]
  | finite m q => exact forall_mem_positional hdigit hpoint _

lemma forall_mem_floatText (hpoint : p '.') (hminus : p '-')
    (hletters : p 'N' ∧ p 'a' ∧ p 'i' ∧ p 'n' ∧ p 'f') (x : Float) :
    ∀ c ∈ (floatText x).toList, p c := by
  unfold floatText binaryText
  generalize BinaryFormat.double.decode x.toBits.toNat = magnitude
  have hmagnitude := forall_mem_magnitudeText hdigit hpoint hletters .double magnitude
  have hsigned : ∀ c ∈ if BinaryFormat.double.isNegative x.toBits.toNat then
      '-' :: magnitudeText .double plainStyle magnitude
      else magnitudeText .double plainStyle magnitude, p c := by
    split_ifs
    · exact List.forall_mem_cons.mpr ⟨hminus, hmagnitude⟩
    · exact hmagnitude
  cases magnitude with
  | nan => rwa [String.toList_ofList]
  | infinite => rwa [String.toList_ofList]
  | finite m q => rwa [String.toList_ofList]

/-! ## Dates and times -/

lemma forall_mem_date (hsigns : p '-' ∧ p '+') (d : Date) : ∀ c ∈ d.text, p c := by
  obtain ⟨hminus, hplus⟩ := hsigns
  have hyear : ∀ c ∈ yearText d.year, p c := by
    unfold yearText
    split_ifs
    · exact forall_mem_paddedNat hdigit _ _
    · exact List.forall_mem_cons.mpr ⟨hminus, forall_mem_paddedNat hdigit _ _⟩
    · exact List.forall_mem_cons.mpr ⟨hplus, forall_mem_paddedNat hdigit _ _⟩
  simp only [Date.text, List.append_assoc, List.cons_append, List.forall_mem_append,
    List.forall_mem_cons]
  exact ⟨hyear, hminus, forall_mem_paddedNat hdigit _ _, hminus, forall_mem_paddedNat hdigit _ _⟩

lemma forall_mem_milliFraction (hpoint : p '.') (t : Time) : ∀ c ∈ milliFraction t, p c :=
  List.forall_mem_cons.mpr ⟨hpoint, forall_mem_paddedNat hdigit _ _⟩

lemma forall_mem_exactFraction (hpoint : p '.') (t : Time) : ∀ c ∈ exactFraction t, p c := by
  unfold exactFraction
  dsimp only
  split_ifs
  · exact List.forall_mem_nil _
  · exact List.forall_mem_cons.mpr ⟨hpoint, forall_mem_paddedNat hdigit _ _⟩
  · exact List.forall_mem_cons.mpr ⟨hpoint, forall_mem_paddedNat hdigit _ _⟩
  · exact List.forall_mem_cons.mpr ⟨hpoint, forall_mem_paddedNat hdigit _ _⟩

lemma forall_mem_time (hcolon : p ':') {fraction : Time → List Char} {t : Time}
    (hfraction : ∀ c ∈ fraction t, p c) : ∀ c ∈ t.text fraction, p c := by
  simp only [Time.text, List.append_assoc, List.cons_append, List.forall_mem_append,
    List.forall_mem_cons]
  exact ⟨forall_mem_paddedNat hdigit _ _, hcolon, forall_mem_paddedNat hdigit _ _, hcolon,
    forall_mem_paddedNat hdigit _ _, hfraction⟩

lemma forall_mem_dateTime (hsigns : p '-' ∧ p '+' ∧ p ' ' ∧ p ':' ∧ p '.') (dt : DateTime) :
    ∀ c ∈ dt.text ' ' milliFraction, p c := by
  obtain ⟨hminus, hplus, hspace, hcolon, hpoint⟩ := hsigns
  have hdate := forall_mem_date hdigit ⟨hminus, hplus⟩ dt.date
  have htime := forall_mem_time hdigit hcolon (forall_mem_milliFraction hdigit hpoint dt.time)
  exact List.forall_mem_append.mpr ⟨hdate, List.forall_mem_cons.mpr ⟨hspace, htime⟩⟩

end Digits

/-! ## Bytes -/

/-- What holds of the sixteen hexadecimal digits holds of all characters of bytes. -/
lemma forall_mem_hexBytes {p : Char → Prop} (hdigit : ∀ n : Fin 16, p (Text.hexDigit n.val))
    (bytes : List UInt8) : ∀ c ∈ bytes.flatMap Text.hexByte, p c := by
  have hhex : ∀ n, p (Text.hexDigit n) := fun n => by
    have hmod : Text.hexDigit n = Text.hexDigit (n % 16) := by simp [Text.hexDigit]
    rw [hmod]
    exact hdigit ⟨n % 16, Nat.mod_lt _ (by decide)⟩
  intro c hc
  obtain ⟨b, -, hb⟩ := List.mem_flatMap.mp hc
  simp only [Text.hexByte, List.mem_cons, List.not_mem_nil, or_false] at hb
  rcases hb with rfl | rfl <;> exact hhex _

end SqlAccess
