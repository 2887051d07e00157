import Mathlib.Algebra.Group.Nat.Defs
import SqlAccess.Calendar.Reading
import SqlAccess.Proofs.Number.Characters
import SqlAccess.Proofs.Number.Digits
import SqlAccess.Proofs.Text.Search

/-!
# Dates and times as they are written and read

The reader goes over a text part by part, and a part that was written is read as what was written,
with the rest of the text left as it is.  Of a run of digits this is so because the digits end where
the reader stops: either a sign follows them, or they are as many as the reader takes.  From there
on each reader follows from those that it consists of.

**One text stands for two times** where a leap second follows any other second than the fifty-ninth:
the text shows the second after it, and so it is the text of that second.  `Time.shown` is the time
that is read of a text, and it is the time that was written exactly if the leap second, where there
is one, follows the fifty-ninth second (`Time.shown_eq_self_iff`).

* `readDateNumbers_text`, `readTime_text` — the two halves.
* **`readDateTime_mark`**, **`readDateTime_blanks`** — a date and a time with a `T` or a space
  between them.
-/

namespace SqlAccess

/-! ## Runs of digits -/

lemma digitsNumber_eq_spelled (digits : List Char) : digitsNumber digits = spelled digits := by
  have hstep : (fun (n : Nat) c => n * 10 + Text.digitValue c) =
      fun n c => 10 * n + (c.toNat - '0'.toNat) := by
    funext n c
    rw [Nat.mul_comm]
    rfl
  rw [digitsNumber, hstep]
  rfl

/-- **A run of digits is read up to its end**, if a reader of so many digits knows where that is. -/
lemma readDigitRun_append {most : Nat} {digits rest : List Char} (hdigits : AreDigits digits)
    (hmost : digits.length ≤ most)
    (hend : digits.length = most ∨ rest.head?.any Char.isDigit = false) :
    readDigitRun most (digits ++ rest) = .ok (spelled digits, rest) := by
  have hrest : (rest.take (most - digits.length)).takeWhile Char.isDigit = [] := by
    rcases hend with hfull | hsign
    · rw [hfull, Nat.sub_self, List.take_zero, List.takeWhile_nil]
    · cases rest with
      | nil => rw [List.take_nil, List.takeWhile_nil]
      | cons c rest =>
          cases most - digits.length with
          | zero => rw [List.take_zero, List.takeWhile_nil]
          | succ n => exact List.takeWhile_cons_of_neg (by simpa using hsign)
  have hrun : ((digits ++ rest).take most).takeWhile Char.isDigit = digits := by
    rw [List.take_append, List.take_of_length_le hmost,
      List.takeWhile_append_of_pos hdigits.2, hrest, List.append_nil]
  have htext : (digits ++ rest).isEmpty = false := by simp [hdigits.1]
  have hne : digits.isEmpty = false := by simp [hdigits.1]
  simp only [readDigitRun, hrun, htext, hne, Bool.false_eq_true, if_false, digitsNumber_eq_spelled,
    List.drop_left]

section PaddedNat

variable (width n : Nat)

lemma areDigits_paddedNat : AreDigits (Text.paddedNat width n) :=
  ⟨List.append_ne_nil_of_right_ne_nil _ Nat.toDigits_ne_nil,
    forall_mem_paddedNat (fun _ h => h) width n⟩

lemma spelled_paddedNat : spelled (Text.paddedNat width n) = n := by
  rw [spelled, Text.paddedNat, Nat.ofDigitChars_append, Nat.ofDigitChars_replicate_zero,
    Nat.mul_zero]
  exact spelled_toDigits n

variable {width n}

lemma length_paddedNat (hwidth : 0 < width) (hn : n < 10 ^ width) :
    (Text.paddedNat width n).length = width := by
  have hdigits : (Nat.toDigits 10 n).length ≤ width :=
    (Nat.length_toDigits_le_iff (by decide) hwidth).mpr hn
  rw [Text.paddedNat, List.length_append, List.length_replicate, Nat.sub_add_cancel hdigits]

/-- A number that fills its places is read whatever follows. -/
lemma readDigitRun_paddedNat (hwidth : 0 < width) (hn : n < 10 ^ width) (rest : List Char) :
    readDigitRun width (Text.paddedNat width n ++ rest) = .ok (n, rest) := by
  have hlength := length_paddedNat hwidth hn
  rw [readDigitRun_append (areDigits_paddedNat width n) (Nat.le_of_eq hlength) (.inl hlength),
    spelled_paddedNat]

end PaddedNat

/-- No blanks are left out in front of digits. -/
lemma dropBlanks_append {digits : List Char} (h : AreDigits digits) (rest : List Char) :
    Text.dropBlanks (digits ++ rest) = digits ++ rest := by
  obtain ⟨hne, hdigits⟩ := h
  obtain ⟨c, others, rfl⟩ := List.exists_cons_of_ne_nil hne
  exact Text.dropBlanks_eq_self (isBlank_of_isDigit (hdigits c List.mem_cons_self))

/-! ## Days -/

lemma readField_paddedNat {low high n : Nat} (hlow : low ≤ n) (hhigh : n ≤ high)
    (hn : n < 100) (rest : List Char) :
    readField low high (Text.paddedNat 2 n ++ rest) = .ok (n, rest) := by
  rw [readField, dropBlanks_append (areDigits_paddedNat 2 n),
    readDigitRun_paddedNat (by decide) hn rest]
  exact if_pos ⟨hlow, hhigh⟩

section Year

variable {year : Int} {n : Nat} {digits rest : List Char}

/-- A year without a sign has at most four digits. -/
lemma readYear_digits (hdigits : AreDigits digits)
    (hrun : readDigitRun 4 (digits ++ rest) = .ok (n, rest)) (hn : isReadableYear n = true) :
    readYear (digits ++ rest) = .ok ((n : Int), rest) := by
  rw [readYear, dropBlanks_append hdigits]
  split
  case h_1 hminus => exact absurd hminus (hdigits.append_ne_cons rfl)
  case h_2 hplus => exact absurd hplus (hdigits.append_ne_cons rfl)
  case h_3 => simp [hrun, Except.map, bind, Except.bind, hn]

/-- Behind a sign all digits that follow are the year. -/
lemma readYear_minus (hrun : readDigitRun digits.length digits = .ok (n, rest))
    (hn : isReadableYear (-n) = true) : readYear ('-' :: digits) = .ok (-(n : Int), rest) := by
  rw [readYear, Text.dropBlanks_eq_self rfl]
  simp [hrun, Except.map, bind, Except.bind, hn]

lemma readYear_plus (hrun : readDigitRun digits.length digits = .ok (n, rest))
    (hn : isReadableYear n = true) : readYear ('+' :: digits) = .ok ((n : Int), rest) := by
  rw [readYear, Text.dropBlanks_eq_self rfl]
  simp [hrun, Except.map, bind, Except.bind, hn]

/-- A year is read up to the hyphen behind it. -/
lemma readYear_yearText (hfirst : firstYear ≤ year) (hlast : year ≤ lastYear) :
    readYear (yearText year ++ '-' :: rest) = .ok (year, '-' :: rest) := by
  have hdigits := areDigits_paddedNat 4 year.natAbs
  have hreadable : isReadableYear year = true := by
    simp only [firstYear, lastYear] at hfirst hlast
    simp only [isReadableYear, Bool.and_eq_true, decide_eq_true_eq]
    omega
  -- behind a sign all digits are read, and a hyphen ends them
  have hsigned : readDigitRun (Text.paddedNat 4 year.natAbs ++ '-' :: rest).length
      (Text.paddedNat 4 year.natAbs ++ '-' :: rest) = .ok (year.natAbs, '-' :: rest) := by
    rw [readDigitRun_append hdigits (by simp) (.inr rfl), spelled_paddedNat]
  unfold yearText
  split_ifs with hplain hneg
  · have hrun : readDigitRun 4 (Text.paddedNat 4 year.natAbs ++ '-' :: rest) =
        .ok (year.natAbs, '-' :: rest) := readDigitRun_paddedNat (by decide) (by omega) _
    have hyear : (year.natAbs : Int) = year := by omega
    rw [readYear_digits hdigits hrun (by rwa [hyear]), hyear]
  · have hyear : -(year.natAbs : Int) = year := by omega
    rw [List.cons_append, readYear_minus hsigned (by rwa [hyear]), hyear]
  · have hyear : (year.natAbs : Int) = year := by omega
    rw [List.cons_append, readYear_plus hsigned (by rwa [hyear]), hyear]

end Year

lemma readMark_self (c : Char) (text : List Char) : readMark c (c :: text) = .ok text :=
  if_pos rfl

/-- Year, month and day are read of a date, whatever follows. -/
lemma readDateNumbers_text (d : Date) (rest : List Char) :
    readDateNumbers (d.text ++ rest) = .ok (⟨d.year, d.month, d.day⟩, rest) := by
  obtain ⟨hfirst, hlast, hmonth, hmonths, hday, hdays⟩ := d.isDate
  have hdays : d.day ≤ 31 := by
    refine Nat.le_trans hdays ?_
    unfold daysInMonth
    split_ifs <;> decide
  simp only [Date.text, List.append_assoc, List.cons_append]
  refine bind_eq_ok.mpr ⟨_, readYear_yearText hfirst hlast, ?_⟩
  refine bind_eq_ok.mpr ⟨_, readMark_self '-' _, ?_⟩
  refine bind_eq_ok.mpr ⟨_, readField_paddedNat hmonth hmonths (by omega) _, ?_⟩
  refine bind_eq_ok.mpr ⟨_, readMark_self '-' _, ?_⟩
  refine bind_eq_ok.mpr ⟨_, readField_paddedNat hday hdays (by omega) _, ?_⟩
  rfl

lemma date_dateNumbers (d : Date) : DateNumbers.date ⟨d.year, d.month, d.day⟩ = .ok d := by
  rw [DateNumbers.date, Date.ofNumbers?_self]

/-- **A date is read of its text.** -/
theorem readDate_text (d : Date) : readDate d.text = .ok d := by
  have hnumbers := readDateNumbers_text d []
  rw [List.append_nil] at hnumbers
  refine bind_eq_ok.mpr ⟨_, hnumbers, ?_⟩
  exact bind_eq_ok.mpr ⟨(), rfl, date_dateNumbers d⟩

/-! ## Times of day -/

namespace Time

/-- The time that the text of a time shows: that of a leap second if it follows the fifty-ninth
second, and else the second after the one that it follows. -/
def shown (t : Time) : Time :=
  if h : 1000000000 ≤ t.nanosecond.val ∧ t.second.val < 59 then
    { t with
      second := ⟨t.second.val + 1, by omega⟩
      nanosecond := ⟨t.nanosecond.val - 1000000000, by omega⟩ }
  else t

/-- The time without what its milliseconds leave out. -/
def millis (t : Time) : Time :=
  { t with nanosecond := ⟨t.nanosecond.val / 1000000 * 1000000, by omega⟩ }

/-- Whether the text of the time shows the time itself: a leap second, where the time is in one,
follows the fifty-ninth second. -/
def IsShown (t : Time) : Prop :=
  t.nanosecond.val < 1000000000 ∨ t.second.val = 59

instance : DecidablePred IsShown := fun t => by
  unfold IsShown; infer_instance

lemma shown_eq_self_iff {t : Time} : t.shown = t ↔ t.IsShown := by
  unfold shown IsShown
  split_ifs with hleap
  · refine iff_of_false (fun h => ?_) (by omega)
    have hsecond := congrArg (fun t => t.second.val) h
    simp at hsecond
  · exact iff_of_true rfl (by omega)

lemma ofNumbers?_self (t : Time) :
    ofNumbers? t.hour.val t.minute.val t.second.val t.nanosecond.val = some t := by
  simp [ofNumbers?]

/-- The numbers that are read of a text are those of the time that the text shows. -/
lemma ofNumbers?_shown (t : Time) :
    ofNumbers? t.hour.val t.minute.val (t.shownSecond - t.shownSecond / 60)
      (t.subsecond + t.shownSecond / 60 * 1000000000) = some t.shown := by
  have hsecond := t.second.isLt
  have hnanosecond := t.nanosecond.isLt
  have hclock : t.shown.hour = t.hour ∧ t.shown.minute = t.minute := by
    unfold shown
    split_ifs <;> exact ⟨rfl, rfl⟩
  have hnumbers : t.shownSecond - t.shownSecond / 60 = t.shown.second.val ∧
      t.subsecond + t.shownSecond / 60 * 1000000000 = t.shown.nanosecond.val := by
    unfold shownSecond subsecond shown
    split_ifs with hleap
    · dsimp only
      omega
    · omega
  rw [hnumbers.1, hnumbers.2, ← hclock.1, ← hclock.2, ofNumbers?_self]

/-- What is cut off is behind the milliseconds. -/
lemma subsecond_millis (t : Time) : t.millis.subsecond = t.subsecond / 1000000 * 1000000 := by
  unfold millis subsecond
  dsimp only
  omega

lemma shownSecond_millis (t : Time) : t.millis.shownSecond = t.shownSecond := by
  unfold millis shownSecond
  dsimp only
  omega

end Time

/-! ## Fractions of a second -/

/-- Three, six or nine places are read as what they are in nanoseconds. -/
lemma readFraction_paddedNat {width n : Nat} (hwidth : 0 < width) (hplaces : width ≤ 9)
    (hn : n < 10 ^ width) :
    readFraction ('.' :: Text.paddedNat width n) = .ok (n * Nat.pow 10 (9 - width), []) := by
  have hdigits := areDigits_paddedNat width n
  have hlength := length_paddedNat hwidth hn
  have hrun : readDigitRun 9 (Text.paddedNat width n ++ []) = .ok (n, []) := by
    rw [readDigitRun_append hdigits (by omega) (.inr rfl), spelled_paddedNat]
  rw [List.append_nil] at hrun
  refine bind_eq_ok.mpr ⟨_, hrun, ?_⟩
  dsimp only
  rw [hlength, List.length_nil, Nat.sub_zero, Nat.min_eq_right hplaces]
  rfl

/-- The exact fraction is read back. -/
lemma readFraction_exactFraction (t : Time) :
    readFraction (exactFraction t) = .ok (t.subsecond, []) := by
  have hlt : t.subsecond < 1000000000 := Nat.mod_lt _ (by decide)
  unfold exactFraction
  dsimp only
  split_ifs with hzero hmillis hmicros
  · rw [hzero]
    rfl
  · rw [readFraction_paddedNat (by decide) (by decide) (by omega)]
    have hmillis : t.subsecond / 1000000 * 1000000 = t.subsecond := by omega
    exact congrArg (fun n => Except.ok (n, [])) hmillis
  · rw [readFraction_paddedNat (by decide) (by decide) (by omega)]
    have hmicros : t.subsecond / 1000 * 1000 = t.subsecond := by omega
    exact congrArg (fun n => Except.ok (n, [])) hmicros
  · rw [readFraction_paddedNat (by decide) (by decide) hlt]
    exact congrArg (fun n => Except.ok (n, [])) (Nat.mul_one t.subsecond)

/-- Of the fraction in milliseconds the whole milliseconds are read. -/
lemma readFraction_milliFraction (t : Time) :
    readFraction (milliFraction t) = .ok (t.millis.subsecond, []) := by
  have hlt : t.subsecond < 1000000000 := Nat.mod_lt _ (by decide)
  rw [milliFraction, readFraction_paddedNat (by decide) (by decide) (by omega)]
  exact congrArg (fun n => Except.ok (n, [])) t.subsecond_millis.symm

/-! ## Times, and dates with them -/

section

variable {fraction : Time → List Char}

/-- **A time is read of its text**, in full or to the precision of its fraction, as the text shows
it. -/
lemma readTime_text {t read : Time} (hclock : read.hour = t.hour ∧ read.minute = t.minute)
    (hsecond : read.shownSecond = t.shownSecond)
    (hfraction : readFraction (fraction t) = .ok (read.subsecond, [])) :
    readTime (t.text fraction) = .ok (read.shown, []) := by
  have hhours := t.hour.isLt
  have hminutes := t.minute.isLt
  have hseconds : t.shownSecond ≤ 60 := by
    have hsecond := t.second.isLt
    have hnanosecond := t.nanosecond.isLt
    unfold Time.shownSecond
    omega
  have hnumbers := read.ofNumbers?_shown
  rw [hclock.1, hclock.2, hsecond] at hnumbers
  simp only [Time.text, List.append_assoc, List.cons_append]
  refine bind_eq_ok.mpr ⟨_, readField_paddedNat (Nat.zero_le _) (by omega) (by omega) _, ?_⟩
  refine bind_eq_ok.mpr ⟨_, readMark_self ':' _, ?_⟩
  refine bind_eq_ok.mpr ⟨_, readField_paddedNat (Nat.zero_le _) (by omega) (by omega) _, ?_⟩
  refine bind_eq_ok.mpr ⟨_, readMark_self ':' _, ?_⟩
  refine bind_eq_ok.mpr ⟨_, readField_paddedNat (Nat.zero_le _) hseconds (by omega) _, ?_⟩
  refine bind_eq_ok.mpr ⟨_, hfraction, ?_⟩
  dsimp only
  rw [hnumbers]

lemma readTime_exact (t : Time) : readTime (t.text exactFraction) = .ok (t.shown, []) :=
  readTime_text ⟨rfl, rfl⟩ rfl (readFraction_exactFraction t)

lemma readTime_millis (t : Time) : readTime (t.text milliFraction) = .ok (t.millis.shown, []) :=
  readTime_text ⟨rfl, rfl⟩ t.shownSecond_millis (readFraction_milliFraction t)

/-- A date and a time are read of a text if the time is. -/
lemma readDateTimeWith_text {gap : DateTimeGap} {between : Char} {dt : DateTime} {read : Time}
    (hgap : gap.read (between :: dt.time.text fraction) = .ok (dt.time.text fraction))
    (htime : readTime (dt.time.text fraction) = .ok (read, [])) :
    readDateTimeWith gap (dt.text between fraction) = .ok ⟨dt.date, read⟩ := by
  refine bind_eq_ok.mpr ⟨_, readDateNumbers_text dt.date _, ?_⟩
  refine bind_eq_ok.mpr ⟨_, hgap, ?_⟩
  refine bind_eq_ok.mpr ⟨_, htime, ?_⟩
  refine bind_eq_ok.mpr ⟨(), rfl, ?_⟩
  exact bind_eq_ok.mpr ⟨_, date_dateNumbers dt.date, rfl⟩

/-- A space is among the blanks that may stand in front of a time. -/
lemma DateTimeGap.read_blanks (fraction : Time → List Char) (t : Time) :
    DateTimeGap.blanks.read (' ' :: t.text fraction) = .ok (t.text fraction) := by
  have htext : t.text fraction = Text.paddedNat 2 t.hour.val ++ (':' ::
      Text.paddedNat 2 t.minute.val ++ ':' :: Text.paddedNat 2 t.shownSecond ++ fraction t) := by
    simp only [Time.text, List.append_assoc, List.cons_append]
  have hblank : Text.dropBlanks (' ' :: t.text fraction) = Text.dropBlanks (t.text fraction) := rfl
  rw [DateTimeGap.read, hblank, htext, dropBlanks_append (areDigits_paddedNat 2 _)]

/-- Where blanks are expected, no other character is read. -/
lemma readDateTimeWith_blanks_mark (dt : DateTime) :
    readDateTimeWith .blanks (dt.text 'T' fraction) = .error .invalid := by
  refine bind_eq_error.mpr (.inr ⟨_, readDateNumbers_text dt.date _, ?_⟩)
  exact bind_eq_error.mpr (.inr ⟨_, congrArg Except.ok (Text.dropBlanks_eq_self rfl), rfl⟩)

end

namespace DateTime

/-- The date and time that their text shows. -/
def shown (dt : DateTime) : DateTime :=
  ⟨dt.date, dt.time.shown⟩

/-- The date and time without what its milliseconds leave out. -/
def millis (dt : DateTime) : DateTime :=
  ⟨dt.date, dt.time.millis⟩

end DateTime

/-- **A date and time are read of their text with a `T`**, to the nanosecond. -/
theorem readDateTime_mark (dt : DateTime) :
    readDateTime (dt.text 'T' exactFraction) = .ok dt.shown := by
  rw [readDateTime, readDateTimeWith_blanks_mark]
  exact readDateTimeWith_text (readMark_self 'T' _) (readTime_exact dt.time)

/-- **A date and time are read of their text with a space**, to the millisecond. -/
theorem readDateTimeWith_blanks (dt : DateTime) :
    readDateTimeWith .blanks (dt.text ' ' milliFraction) = .ok dt.millis.shown :=
  readDateTimeWith_text (DateTimeGap.read_blanks _ _) (readTime_millis dt.time)

theorem readDateTime_blanks (dt : DateTime) :
    readDateTime (dt.text ' ' milliFraction) = .ok dt.millis.shown := by
  rw [readDateTime, readDateTimeWith_blanks]

end SqlAccess
