import SqlAccess.Literal
import SqlAccess.Proofs.Calendar.Written
import SqlAccess.Proofs.Mysql.Cell

/-!
# Dates and times as text, and back

A date or a time leaves as text in two ways, as JSON and as a literal of a statement, and it comes
back as text in two ways, in the cell of a column and as a text that a date or a time is wanted of.
The text of a literal is what the server sends back of the column that it was written to.

JSON keeps the nanoseconds, and the literal keeps the milliseconds and rounds nothing.  Apart from
this nothing is lost, over the whole calendar and in its leap seconds, with one exception:
a leap second that follows any other second than the fifty-ninth has no text of its own
(`Time.IsShown`).

* **`Value.readBack_of_text`** — what becomes of every date, and of every date and time, on every
  way.
-/

namespace SqlAccess

/-! ## The characters of the texts -/

lemma isAscii_date (d : Date) : Text.IsAscii d.text :=
  forall_mem_date (fun _ => isAscii_of_isDigit) (by decide) d

lemma isAscii_dateTime (dt : DateTime) : Text.IsAscii (dt.text ' ' milliFraction) :=
  forall_mem_dateTime (fun _ => isAscii_of_isDigit) (by decide) dt

lemma trimList_date (d : Date) : Text.trimList d.text = d.text :=
  Text.trimList_eq_self (forall_mem_date (fun _ => isBlank_of_isDigit) (by decide) d)

/-- Whatever stands between date and time, no blanks are left out. -/
lemma trimList_dateTime {fraction : Time → List Char} {dt : DateTime}
    (hfraction : ∀ c ∈ fraction dt.time, Text.isBlank c = false) (between : Char) :
    Text.trimList (dt.text between fraction) = dt.text between fraction := by
  have hdate := forall_mem_date (fun _ => isBlank_of_isDigit) (by decide) dt.date
  have htime := forall_mem_time (fun _ => isBlank_of_isDigit) (by decide) hfraction
  have hdate_ne : dt.date.text ≠ [] := by simp [Date.text]
  have htime_ne : dt.time.text fraction ≠ [] := by simp [Time.text]
  refine Text.trimList_eq_self_of_ends ?_ ?_
  · obtain ⟨c, others, hfirst⟩ := List.exists_cons_of_ne_nil hdate_ne
    have hc : Text.isBlank c = false := hdate c (hfirst ▸ List.mem_cons_self)
    rw [DateTime.text, hfirst]
    exact hc
  · obtain ⟨others, c, hlast⟩ := (List.eq_nil_or_concat _).resolve_left htime_ne
    rw [List.concat_eq_append] at hlast
    have hc : Text.isBlank c = false := htime c (by rw [hlast]; exact List.mem_concat_self)
    have htext : dt.text between fraction = (dt.date.text ++ between :: others) ++ [c] := by
      rw [DateTime.text, hlast]
      simp
    rw [htext, List.getLast?_concat]
    exact hc

/-! ## What texts are read as -/

lemma ofValue_text_date_eq_ok {s : String} {d : Date}
    (h : readDate (Text.trimList s.toList) = .ok d) :
    (ofValue (.text s) : Except ExtractError Date) = .ok d :=
  mapError_eq_ok.mpr h

lemma ofValue_text_dateTime_eq_ok {s : String} {dt : DateTime}
    (h : readDateTime (Text.trimList s.toList) = .ok dt) :
    (ofValue (.text s) : Except ExtractError DateTime) = .ok dt :=
  mapError_eq_ok.mpr h

lemma ofValue_text_date (d : Date) :
    (ofValue (.text (String.ofList d.text)) : Except ExtractError Date) = .ok d := by
  refine ofValue_text_date_eq_ok ?_
  rw [String.toList_ofList, trimList_date, readDate_text]

/-- The text of JSON is read as the date and time that it shows. -/
lemma ofValue_text_exact (dt : DateTime) :
    (ofValue (.text (String.ofList (dt.text 'T' exactFraction))) : Except ExtractError DateTime) =
      .ok dt.shown := by
  have hfraction := forall_mem_exactFraction (fun _ => isBlank_of_isDigit) (by decide) dt.time
  refine ofValue_text_dateTime_eq_ok ?_
  rw [String.toList_ofList, trimList_dateTime hfraction, readDateTime_mark]

/-- The text of a literal is read as the milliseconds that it shows. -/
lemma ofValue_text_millis (dt : DateTime) :
    (ofValue (.text (String.ofList (dt.text ' ' milliFraction))) : Except ExtractError DateTime) =
      .ok dt.millis.shown := by
  have hfraction := forall_mem_milliFraction (fun _ => isBlank_of_isDigit) (by decide) dt.time
  refine ofValue_text_dateTime_eq_ok ?_
  rw [String.toList_ofList, trimList_dateTime hfraction, readDateTime_blanks]

namespace ColumnInfo

variable {c : ColumnInfo}

lemma decode_date (hform : c.form = .date) (d : Date) :
    c.decode (some (Text.utf8Encode (String.ofList d.text))) = .date d := by
  rw [decode_ascii (by simp [isBinary, hform]) (isAscii_date d), read?, hform]
  dsimp only
  rw [readDate_text]
  rfl

lemma decode_dateTime (hform : c.form = .dateTime) (dt : DateTime) :
    c.decode (some (Text.utf8Encode (String.ofList (dt.text ' ' milliFraction)))) =
      .dateTime dt.millis.shown := by
  rw [decode_ascii (by simp [isBinary, hform]) (isAscii_dateTime dt), read?, hform]
  dsimp only
  rw [readDateTimeWith_blanks]
  rfl

end ColumnInfo

/-! ## There and back -/

/-- What a date and time is read back as, it is itself exactly if its text shows its time. -/
lemma DateTime.shown_eq_self_iff {dt : DateTime} : dt.shown = dt ↔ dt.time.IsShown := by
  rw [← Time.shown_eq_self_iff, shown]
  cases dt
  simp

lemma DateTime.isShown_millis {dt : DateTime} : dt.millis.time.IsShown ↔ dt.time.IsShown := by
  unfold millis Time.millis Time.IsShown
  dsimp only
  omega

/-- **Dates and times are read back.**  Of the text of JSON the date and time that it shows is read,
and of the text of a literal what this is to the millisecond, as a cell and as a text alike.  This
is the date and time itself exactly if its text shows its time.  A date is read back of its text in
JSON and in a literal. -/
theorem Value.readBack_of_text {c c' : ColumnInfo} (hdateTime : c.form = .dateTime)
    (hdate : c'.form = .date) :
    (∀ dt : DateTime,
      (∃ s, (Value.dateTime dt).toJson = .string s ∧
        (ofValue (.text s) : Except ExtractError DateTime) = .ok dt.shown) ∧
      (∃ s, (Value.dateTime dt).sql.toList = '\'' :: s.toList ++ ['\''] ∧
        c.decode (some (Text.utf8Encode s)) = .dateTime dt.millis.shown ∧
        (ofValue (.text s) : Except ExtractError DateTime) = .ok dt.millis.shown) ∧
      (dt.shown = dt ↔ dt.time.IsShown) ∧
      (dt.millis.shown = dt.millis ↔ dt.time.IsShown)) ∧
    ∀ d : Date,
      (∃ s, (Value.date d).toJson = .string s ∧
        (ofValue (.text s) : Except ExtractError Date) = .ok d) ∧
      ∃ s, (Value.date d).sql.toList = '\'' :: s.toList ++ ['\''] ∧
        c'.decode (some (Text.utf8Encode s)) = .date d := by
  constructor
  · intro dt
    refine ⟨⟨_, by rw [toJson], ofValue_text_exact dt⟩,
      ⟨_, ?_, ColumnInfo.decode_dateTime hdateTime dt, ofValue_text_millis dt⟩,
      DateTime.shown_eq_self_iff, DateTime.shown_eq_self_iff.trans DateTime.isShown_millis⟩
    rw [sql, literal, String.toList_ofList, String.toList_ofList]
  · intro d
    refine ⟨⟨_, by rw [toJson], ofValue_text_date d⟩, _, ?_, ColumnInfo.decode_date hdate d⟩
    rw [sql, literal, String.toList_ofList, String.toList_ofList]

/-- The leap second of the end of June 2015 is read back of a column of dates and times, and the
day of a column of dates. -/
theorem Value.readBack_of_text_of_leap :
    let c : ColumnInfo := { name := "at", type := 12, charset := 63, flags := 128 }
    let c' : ColumnInfo := { name := "on", type := 10, charset := 63, flags := 128 }
    let d : Date := ⟨2015, 6, 30, by decide⟩
    let dt : DateTime := ⟨d, 23, 59, 59, 1042000000⟩
    (∃ s, (Value.dateTime dt).sql.toList = '\'' :: s.toList ++ ['\''] ∧
      c.decode (some (Text.utf8Encode s)) = .dateTime dt) ∧
    ∃ s, (Value.date d).sql.toList = '\'' :: s.toList ++ ['\''] ∧
      c'.decode (some (Text.utf8Encode s)) = .date d := by
  intro c c' d dt
  have hdateTime : c.form = .dateTime := rfl
  have hdate : c'.form = .date := rfl
  obtain ⟨hdateTimes, hdates⟩ := Value.readBack_of_text hdateTime hdate
  obtain ⟨-, ⟨s, hs, hcell, -⟩, -⟩ := hdateTimes dt
  have hshown : dt.millis.shown = dt := by decide
  exact ⟨⟨s, hs, hcell.trans (congrArg Value.dateTime hshown)⟩, (hdates d).2⟩

/-- **A leap second within a minute is read as the second after it**, for its text is the text of
that second. -/
theorem Value.ofValue_text_leap_within_minute :
    let dt : DateTime := ⟨⟨2015, 6, 30, by decide⟩, 23, 56, 4, 1333333333⟩
    let later : DateTime := ⟨⟨2015, 6, 30, by decide⟩, 23, 56, 5, 333333333⟩
    (Value.dateTime dt).toJson = .string "2015-06-30T23:56:05.333333333" ∧
      (ofValue (.text "2015-06-30T23:56:05.333333333") : Except ExtractError DateTime) =
        .ok later ∧
      later ≠ dt := by
  intro dt later
  have htext : String.ofList (dt.text 'T' exactFraction) = "2015-06-30T23:56:05.333333333" := by
    decide
  have hjson : (Value.dateTime dt).toJson =
      .string (String.ofList (dt.text 'T' exactFraction)) := by rw [toJson]
  have hshown : dt.shown = later := by decide
  have hread := ofValue_text_exact dt
  rw [htext, hshown] at hread
  exact ⟨hjson.trans (congrArg Json.string htext), hread, by decide⟩

end SqlAccess
