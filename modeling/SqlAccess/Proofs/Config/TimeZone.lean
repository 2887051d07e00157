import SqlAccess.Proofs.Config.Connecting
import SqlAccess.Proofs.Number.Digits
import SqlAccess.Proofs.Text.Bytes

/-!
# The time zones that are understood

A written offset is looked at in two ways.  Its length, its sign and its colon are looked at by the
places of bytes, and its hours and minutes are pieces between places which are read as numbers.
Neither look asks for six characters, and a piece may end inside of a character.  The two fit
together because nothing but ASCII is read as a number: a piece of two bytes that is read has two
characters, and then the places of bytes are those of characters (`isOffset_iff`).

**Numbers have a sign of their own.**  A number may be written with a plus sign in front, so `+1` is
read for hours as `01` is, and `++1:00` is understood beside `+01:00`.  It is handed to the server
as it is written.  Such a sign in the place of the tens is all that is accepted beside the form that
is meant.

* `SessionZone.IsZone` — the forms of a time zone, as it is meant to be written (`IsField`) and as
  it is accepted (`IsTakenField`).
* **`PoolConfig.validate_timezone_iff`** — the time zones that settings may have, and what the
  server is told.
-/

namespace SqlAccess

namespace SessionZone

open Sql (utf8 utf8_append head?_utf8 toList_bytesOf)

open Text (IsAscii)

/-! ## Forms of an offset -/

/-- Two digits that spell at most `limit`. -/
def IsField (limit : Nat) (piece : List Char) : Prop :=
  piece.length = 2 ∧ AreDigits piece ∧ spelled piece ≤ limit

/-- What is taken for two digits: these, or a plus sign in the place of the tens. -/
def IsTakenField (limit : Nat) (piece : List Char) : Prop :=
  IsField limit piece ∨ ∃ digit, digit.isDigit = true ∧ piece = ['+', digit]

/-- A sign, hours up to 14, a colon and minutes up to 59, where `field` tells how hours and minutes
are written. -/
def IsOffset (field : Nat → List Char → Prop) (text : List Char) : Prop :=
  ∃ sign hours minutes, (sign = '+' ∨ sign = '-') ∧ field 14 hours ∧ field 59 minutes ∧
    text = sign :: hours ++ ':' :: minutes

/-- The names of time zones, and the offsets with hours and minutes as `field` has them. -/
def IsZone (field : Nat → List Char → Prop) (s : String) : Prop :=
  s = "local" ∨ s = "Z" ∨ s = "z" ∨ IsOffset field s.toList

/-! ## Fields -/

/-- Digits that spell at most `limit`, with a plus sign in front or without. -/
def IsRead (limit : Nat) (piece : List Char) : Prop :=
  ∃ digits, AreDigits digits ∧ (piece = digits ∨ piece = '+' :: digits) ∧ spelled digits ≤ limit

lemma isFieldUpTo_eq_true {limit : Nat} (hlimit : limit ≤ 255) {piece? : Option (List Char)} :
    isFieldUpTo limit piece? = true ↔ ∃ piece, piece? = some piece ∧ IsRead limit piece := by
  cases piece? with
  | none => exact iff_of_false nofun nofun
  | some piece =>
      simp only [isFieldUpTo, Option.some.injEq, exists_eq_left']
      constructor
      · intro h
        split at h
        · rename_i n hread
          obtain ⟨digits, hdigits, ⟨hpiece, -, rfl⟩ | ⟨-, hbelow, -⟩⟩ :=
            IntegerRange.read_eq_ok.mp hread
          · exact ⟨digits, hdigits, hpiece, Int.ofNat_le.mp (of_decide_eq_true h)⟩
          · exact absurd rfl hbelow
        · cases h
      · rintro ⟨digits, hdigits, hpiece, hspelled⟩
        have hread : (IntegerRange.unsigned 8).read piece = .ok (spelled digits) :=
          IntegerRange.read_eq_ok.mpr
            ⟨digits, hdigits, .inl ⟨hpiece, hspelled.trans hlimit, rfl⟩⟩
        rw [hread]
        exact decide_eq_true (Int.ofNat_le.mpr hspelled)

/-- **What is read as a number is ASCII.** -/
lemma IsRead.isAscii {limit : Nat} {piece : List Char} (h : IsRead limit piece) :
    IsAscii piece := by
  obtain ⟨digits, ⟨-, hdigits⟩, hpiece, -⟩ := h
  have hascii : IsAscii digits := fun c hc => by
    have hdigit := toNat_of_isDigit (hdigits c hc)
    omega
  rcases hpiece with rfl | rfl
  · exact hascii
  · exact List.forall_mem_cons.mpr ⟨by decide, hascii⟩

/-- **Of two characters, what is read as a number is taken for a field**, and nothing else. -/
lemma isTakenField_iff {limit : Nat} (hlimit : 9 ≤ limit) {piece : List Char} :
    IsTakenField limit piece ↔ piece.length = 2 ∧ IsRead limit piece := by
  constructor
  · rintro (⟨hlength, hdigits, hspelled⟩ | ⟨digit, hdigit, rfl⟩)
    · exact ⟨hlength, piece, hdigits, .inl rfl, hspelled⟩
    · exact ⟨rfl, [digit], ⟨List.cons_ne_nil _ _, by simpa using hdigit⟩, .inr rfl,
        (spelled_singleton_le hdigit).trans hlimit⟩
  · rintro ⟨hlength, digits, hdigits, rfl | rfl, hspelled⟩
    · exact .inl ⟨hlength, hdigits, hspelled⟩
    · obtain ⟨digit, rfl⟩ := List.length_eq_one_iff.mp (Nat.succ.inj hlength)
      exact .inr ⟨digit, hdigits.2 digit List.mem_cons_self, rfl⟩

/-! ## Offsets -/

lemma isOffset_eq_true {s : String} :
    isOffset s = true ↔ (utf8 s.toList).length = 6 ∧
      ((utf8 s.toList).head? = some '+'.toUInt8 ∨ (utf8 s.toList).head? = some '-'.toUInt8) ∧
      (utf8 s.toList)[3]? = some ':'.toUInt8 ∧
      (∃ hours, Text.slice? 1 3 s.toList = some hours ∧ IsRead 14 hours) ∧
      ∃ minutes, Text.slice? 4 6 s.toList = some minutes ∧ IsRead 59 minutes := by
  have hbytes : s.toUTF8.data.toList = utf8 s.toList := toList_bytesOf s
  simp only [isOffset, Bool.and_eq_true, Bool.or_eq_true, beq_iff_eq, and_assoc, ← hbytes,
    Array.length_toList, List.head?_eq_getElem?, Array.getElem?_toList,
    isFieldUpTo_eq_true (show 14 ≤ 255 by decide), isFieldUpTo_eq_true (show 59 ≤ 255 by decide)]

/-- A first character that takes all the room is the only one. -/
lemma eq_singleton_of_head? {sign : Char} {before behind : List Char}
    (hhead : (before ++ behind).head? = some sign) (hbytes : (utf8 before).length = 1) :
    before = [sign] := by
  cases before with
  | nil => cases hbytes
  | cons c before =>
      obtain rfl : c = sign := Option.some.inj hhead
      have hsize := c.utf8Size_pos
      rw [Text.length_utf8_cons] at hbytes
      rw [Text.length_utf8_eq_zero.mp (show (utf8 before).length = 0 by omega)]

/-- **An offset by the places of bytes is one by characters.** -/
lemma isOffset_iff {s : String} : isOffset s = true ↔ IsOffset IsTakenField s.toList := by
  rw [isOffset_eq_true]
  generalize s.toList = text
  constructor
  · rintro ⟨hsize, hfirst, hcolon, ⟨hours, hslice, hhours⟩, minutes, hslice', hminutes⟩
    obtain ⟨before, behind, rfl, hone, hthree⟩ := Text.slice?_eq_some.mp hslice
    obtain ⟨before', behind', htext, hfour, hsix⟩ := Text.slice?_eq_some.mp hslice'
    obtain ⟨sign, hsign, hhead⟩ :
        ∃ sign, (sign = '+' ∨ sign = '-') ∧ (before ++ hours ++ behind).head? = some sign := by
      rw [head?_utf8 (by decide), head?_utf8 (by decide)] at hfirst
      exact hfirst.elim (⟨'+', .inl rfl, ·⟩) (⟨'-', .inr rfl, ·⟩)
    obtain rfl := eq_singleton_of_head? (List.append_assoc _ _ _ ▸ hhead) hone
    -- The colon stands behind three bytes, so the hours are followed by it.
    obtain ⟨rest, rfl⟩ : ∃ rest, behind = ':' :: rest := by
      rw [utf8_append, List.getElem?_append_right (Nat.le_of_eq hthree), hthree, Nat.sub_self,
        ← List.head?_eq_getElem?, head?_utf8 (by decide)] at hcolon
      exact List.head?_eq_some_iff.mp hcolon
    obtain ⟨hhead, rfl⟩ : [sign] ++ hours ++ [':'] = before' ∧ rest = minutes ++ behind' := by
      refine Text.cut_unique (by simpa using htext) ?_
      rw [Text.length_utf8_append, hthree, hfour]
      rfl
    -- Six bytes have been told, so nothing is behind the minutes.
    obtain rfl : behind' = [] := by
      rw [htext, Text.length_utf8_append, hsix] at hsize
      exact Text.length_utf8_eq_zero.mp (by omega)
    rw [Text.length_utf8_append, hone, Text.length_utf8_of_isAscii hhours.isAscii] at hthree
    rw [Text.length_utf8_append, hfour, Text.length_utf8_of_isAscii hminutes.isAscii] at hsix
    exact ⟨sign, hours, minutes, hsign,
      (isTakenField_iff (by decide)).mpr ⟨by omega, hhours⟩,
      (isTakenField_iff (by decide)).mpr ⟨by omega, hminutes⟩, by simp⟩
  · rintro ⟨sign, hours, minutes, hsign, hhours, hminutes, rfl⟩
    obtain ⟨hlength, hhours⟩ := (isTakenField_iff (by decide)).mp hhours
    obtain ⟨hlength', hminutes⟩ := (isTakenField_iff (by decide)).mp hminutes
    have hsigned : IsAscii [sign] := by
      rcases hsign with rfl | rfl <;> decide
    have hstart := List.forall_mem_append.mpr ⟨hsigned, hhours.isAscii⟩
    have hcolon := List.forall_mem_append.mpr ⟨hstart, (by decide : IsAscii [':'])⟩
    have hend := List.forall_mem_append.mpr ⟨hcolon, hminutes.isAscii⟩
    have hbytes := Text.utf8_eq_map hend
    obtain ⟨h, h', rfl⟩ := List.length_eq_two.mp hlength
    obtain ⟨m, m', rfl⟩ := List.length_eq_two.mp hlength'
    have hfirst : (utf8 [sign, h, h', ':', m, m']).head? = some '+'.toUInt8 ∨
        (utf8 [sign, h, h', ':', m, m']).head? = some '-'.toUInt8 := by
      rw [head?_utf8 (by decide), head?_utf8 (by decide)]
      simpa using hsign
    refine ⟨congrArg List.length hbytes, hfirst, congrArg (·[3]?) hbytes,
      ⟨[h, h'], Text.slice?_eq_some.mpr ⟨[sign], [':', m, m'], rfl, ?_, ?_⟩, hhours⟩,
      [m, m'], Text.slice?_eq_some.mpr ⟨[sign, h, h', ':'], [], rfl, ?_, ?_⟩, hminutes⟩
    · exact Text.length_utf8_of_isAscii hsigned
    · exact Text.length_utf8_of_isAscii hstart
    · exact Text.length_utf8_of_isAscii hcolon
    · exact Text.length_utf8_of_isAscii hend

/-- Digits stand in the two places of a field, and no sign. -/
lemma not_mem_of_isField {limit : Nat} {piece : List Char} (h : IsField limit piece) :
    '+' ∉ piece :=
  fun hmem => absurd (h.2.1.2 '+' hmem) (by decide)

/-- **An offset is of the form that is meant, or it has a sign in the place of the tens.** -/
lemma isOffset_isField_iff {text : List Char} :
    IsOffset IsField text ↔ IsOffset IsTakenField text ∧ '+' ∉ text.tail := by
  constructor
  · rintro ⟨sign, hours, minutes, hsign, hhours, hminutes, rfl⟩
    refine ⟨⟨sign, hours, minutes, hsign, .inl hhours, .inl hminutes, rfl⟩, ?_⟩
    simp [not_mem_of_isField hhours, not_mem_of_isField hminutes]
  · rintro ⟨⟨sign, hours, minutes, hsign, hhours, hminutes, rfl⟩, hplus⟩
    have hfield {limit : Nat} {piece : List Char} (hmem : '+' ∉ piece)
        (h : IsTakenField limit piece) : IsField limit piece := by
      rcases h with h | ⟨digit, -, rfl⟩
      · exact h
      · exact absurd List.mem_cons_self hmem
    simp only [List.cons_append, List.tail_cons, List.mem_append, List.mem_cons, not_or] at hplus
    exact ⟨sign, hours, minutes, hsign, hfield hplus.1 hhours, hfield hplus.2.2 hminutes, rfl⟩

/-! ## Time zones -/

lemma ofText?_isSome {s : String} : (ofText? s).isSome = true ↔ IsZone IsTakenField s := by
  unfold ofText?
  split_ifs with hlocal hutc hform
  · simp [IsZone, hlocal]
  · exact iff_of_true rfl (.inr (or_assoc.mp (.inl hutc)))
  · exact iff_of_true rfl (.inr (.inr (.inr (isOffset_iff.mp hform))))
  · obtain ⟨hZ, hz⟩ := not_or.mp hutc
    rw [isOffset_iff] at hform
    simp [IsZone, hlocal, hZ, hz, hform]

/-- What is meant is what is taken, but for signs in the place of the tens. -/
lemma isZone_isField_iff {s : String} :
    IsZone IsField s ↔ IsZone IsTakenField s ∧ '+' ∉ s.toList.tail := by
  have hname : s = "local" ∨ s = "Z" ∨ s = "z" → '+' ∉ s.toList.tail := by
    rintro (rfl | rfl | rfl) <;> decide
  simp only [IsZone, isOffset_isField_iff]
  tauto

/-- What the server is told of a time zone that is understood. -/
def told (s : String) : Option String :=
  if s = "local" then none
  else if s = "Z" ∨ s = "z" then some "+00:00"
  else some s

lemma ofText?_bind {s : String} (h : (ofText? s).isSome = true) :
    (ofText? s).bind offset? = told s := by
  unfold ofText? at h ⊢
  unfold told
  split_ifs at h ⊢
  · rfl
  · rfl
  · rfl
  · cases h

end SessionZone

/-! ## Settings -/

namespace PoolConfig

/-- Settings that are usable without a time zone are usable with one that is understood. -/
lemma validate_zoned {c : PoolConfig} (hothers : { c with timezone := none }.validate = .ok ())
    (tz : String) : { c with timezone := some tz }.validate =
      if (SessionZone.ofText? tz).isSome then .ok () else .error (.timezone tz) := by
  obtain ⟨hhost, hhosts, huser, hdatabase, hlimit, -⟩ := validate_eq_ok.mp hothers
  unfold validate
  rw [if_neg (by simpa using hhost), if_neg (by simpa using hhosts), if_neg (by simpa using huser),
    if_neg (by simpa using hdatabase), if_neg hlimit]
  rfl

/-- **The time zones that settings may have.**  Of settings that are usable otherwise, a time zone
is accepted exactly if it is `local`, `Z`, `z` or an offset, where a plus sign may stand in the
place of the tens.  Those without such a sign are the time zones as they are meant to be written.
The server is told nothing of `local`, `+00:00` of `Z`, and an offset as it is written.  A time
zone that is not accepted is reported, and nothing is told of it. -/
theorem validate_timezone_iff {c : PoolConfig}
    (hothers : { c with timezone := none }.validate = .ok ()) (tz : String) :
    let zoned := { c with timezone := some tz }
    (zoned.validate = .ok () ↔ SessionZone.IsZone SessionZone.IsTakenField tz) ∧
      (SessionZone.IsZone SessionZone.IsField tz ↔
        zoned.validate = .ok () ∧ '+' ∉ tz.toList.tail) ∧
      (zoned.validate = .ok () → zoned.sessionOffset? = SessionZone.told tz) ∧
      (zoned.validate ≠ .ok () →
        zoned.validate = .error (.timezone tz) ∧ zoned.sessionOffset? = none) := by
  intro zoned
  have hvalidate : zoned.validate = if (SessionZone.ofText? tz).isSome then .ok ()
      else .error (.timezone tz) := validate_zoned hothers tz
  have hoffset : zoned.sessionOffset? = (SessionZone.ofText? tz).bind SessionZone.offset? := rfl
  have hiff : zoned.validate = .ok () ↔ (SessionZone.ofText? tz).isSome = true := by
    rw [hvalidate]
    split_ifs with h <;> simp [h]
  refine ⟨hiff.trans SessionZone.ofText?_isSome, ?_, fun h => ?_, fun h => ?_⟩
  · rw [hiff, SessionZone.ofText?_isSome, SessionZone.isZone_isField_iff]
  · rw [hoffset, SessionZone.ofText?_bind (hiff.mp h)]
  · have hnone := mt hiff.mpr h
    rw [hvalidate, if_neg hnone, hoffset, Option.not_isSome_iff_eq_none.mp hnone]
    exact ⟨rfl, rfl⟩

/-- A plus sign in the place of the tens is accepted and handed to the server. -/
theorem validate_timezone_iff_of_inner_sign :
    let c := PoolConfig.basic "db" "app" "shop"
    let zoned := { c with timezone := some "++1:00" }
    { c with timezone := none }.validate = .ok () ∧ zoned.validate = .ok () ∧
      zoned.sessionOffset? = some "++1:00" ∧
      ¬SessionZone.IsZone SessionZone.IsField "++1:00" := by
  intro c zoned
  have hothers : { c with timezone := none }.validate = .ok () := by decide +kernel
  obtain ⟨haccepted, hmeant, htold, -⟩ := validate_timezone_iff hothers "++1:00"
  have hdigits : ∀ c ∈ ['0', '0'], c.isDigit = true :=
    List.forall_mem_cons.mpr ⟨rfl, List.forall_mem_singleton.mpr rfl⟩
  have hzone : zoned.validate = .ok () :=
    haccepted.mpr (.inr (.inr (.inr ⟨'+', ['+', '1'], ['0', '0'], .inl rfl, .inr ⟨'1', rfl, rfl⟩,
      .inl ⟨rfl, ⟨by decide, hdigits⟩, by decide⟩, rfl⟩)))
  exact ⟨hothers, hzone, htold hzone, fun h => (hmeant.mp h).2 (by decide)⟩

end PoolConfig

end SqlAccess
