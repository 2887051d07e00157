import SqlAccess.Proofs.Sql.Encoded
import SqlAccess.Text.Slice
import SqlAccess.Text.Utf8

/-!
# Texts and their bytes

A text can be cut at a place exactly if the bytes in front of the place are those of a beginning of
the text.  So a piece between two places is told by what is in front of it and what is behind it
(`slice?_eq_some`), and not by a walk over characters.

The bytes of ASCII text are its characters (`utf8_eq_map`), and such bytes are read as the text that
they are the bytes of (`utf8Decode_ascii`).
-/

namespace SqlAccess.Text

open Sql (utf8 utf8_cons utf8_append utf8_cons_ascii toNat_toUInt8 toList_bytesOf)

/-! ## Cuts -/

lemma length_utf8_cons (c : Char) (text : List Char) :
    (utf8 (c :: text)).length = c.utf8Size + (utf8 text).length := by
  rw [utf8_cons, List.length_append, String.length_utf8EncodeChar]

lemma length_utf8_append (text behind : List Char) :
    (utf8 (text ++ behind)).length = (utf8 text).length + (utf8 behind).length := by
  rw [utf8_append, List.length_append]

/-- Only the empty text has no bytes. -/
lemma length_utf8_eq_zero {text : List Char} : (utf8 text).length = 0 ↔ text = [] := by
  cases text with
  | nil => simp [utf8]
  | cons c text =>
      have hsize := c.utf8Size_pos
      rw [length_utf8_cons]
      exact iff_of_false (by omega) (List.cons_ne_nil c text)

/-- **A text can be cut where a beginning of it ends.** -/
lemma cutAt?_eq_some {n : Nat} {text before behind : List Char} :
    cutAt? n text = some (before, behind) ↔
      text = before ++ behind ∧ (utf8 before).length = n := by
  induction text generalizing n before with
  | nil =>
      cases n with
      | zero =>
          rw [cutAt?, length_utf8_eq_zero]
          grind
      | succ n =>
          rw [cutAt?, List.nil_eq_append_iff]
          refine iff_of_false nofun ?_
          rintro ⟨⟨rfl, -⟩, hbytes⟩
          cases hbytes
  | cons c text ih =>
      cases n with
      | zero =>
          rw [cutAt?, length_utf8_eq_zero]
          grind
      | succ n =>
          have hsize := c.utf8Size_pos
          cases before with
          | nil =>
              rw [cutAt?]
              refine iff_of_false ?_ fun h => nomatch h.2
              split_ifs <;> simp
          | cons d before =>
              rw [cutAt?, length_utf8_cons, List.cons_append, List.cons.injEq]
              split_ifs with hfits
              · simp only [Option.map_eq_some_iff, Prod.exists, Prod.mk.injEq, List.cons.injEq]
                constructor
                · rintro ⟨_, _, hcut, ⟨rfl, rfl⟩, rfl⟩
                  obtain ⟨htext, hbytes⟩ := ih.mp hcut
                  exact ⟨⟨rfl, htext⟩, by omega⟩
                · rintro ⟨⟨rfl, htext⟩, hbytes⟩
                  exact ⟨before, behind, ih.mpr ⟨htext, by omega⟩, ⟨rfl, rfl⟩, rfl⟩
              · refine iff_of_false nofun ?_
                rintro ⟨⟨rfl, -⟩, hbytes⟩
                omega

/-- There is one way to cut a text at a place. -/
lemma cut_unique {before before' behind behind' : List Char}
    (htext : before ++ behind = before' ++ behind')
    (hbytes : (utf8 before).length = (utf8 before').length) :
    before = before' ∧ behind = behind' := by
  have hcut := cutAt?_eq_some.mpr ⟨htext, rfl⟩
  rw [← hbytes, cutAt?_eq_some.mpr ⟨rfl, rfl⟩] at hcut
  exact Prod.mk.inj (Option.some.inj hcut)

/-- **A piece between two places** lies behind so many bytes and ends behind so many. -/
lemma slice?_eq_some {first last : Nat} {text piece : List Char} :
    slice? first last text = some piece ↔ ∃ before behind, text = before ++ piece ++ behind ∧
      (utf8 before).length = first ∧ (utf8 (before ++ piece)).length = last := by
  rw [slice?]
  split_ifs with horder
  · simp only [Option.bind_eq_bind, Option.bind_eq_some_iff, Option.some.injEq, Prod.exists,
      cutAt?_eq_some, length_utf8_append]
    constructor
    · rintro ⟨before, _, ⟨rfl, hfirst⟩, _, behind, ⟨rfl, hlast⟩, rfl⟩
      exact ⟨before, behind, (List.append_assoc _ _ _).symm, hfirst, by omega⟩
    · rintro ⟨before, behind, rfl, hfirst, hlast⟩
      exact ⟨before, piece ++ behind, ⟨List.append_assoc _ _ _, hfirst⟩, piece, behind,
        ⟨rfl, by omega⟩, rfl⟩
  · refine iff_of_false nofun ?_
    rintro ⟨before, _, -, hfirst, hlast⟩
    rw [length_utf8_append] at hlast
    omega

/-! ## ASCII -/

/-- All characters are ASCII characters. -/
def IsAscii (text : List Char) : Prop :=
  ∀ c ∈ text, c.toNat < 128

instance (text : List Char) : Decidable (IsAscii text) :=
  List.decidableBAll (fun c : Char => c.toNat < 128) text

/-- **The bytes of ASCII text are its characters.** -/
lemma utf8_eq_map {text : List Char} (h : IsAscii text) : utf8 text = text.map Char.toUInt8 := by
  induction text with
  | nil => rfl
  | cons c text ih =>
      obtain ⟨hc, htext⟩ := List.forall_mem_cons.mp h
      rw [utf8_cons_ascii hc, ih htext, List.map_cons]

lemma length_utf8_of_isAscii {text : List Char} (h : IsAscii text) :
    (utf8 text).length = text.length := by
  rw [utf8_eq_map h, List.length_map]

lemma toList_loop (bytes : ByteArray) (i : Nat) (read : List UInt8) :
    ByteArray.toList.loop bytes i read = read.reverse ++ bytes.data.toList.drop i := by
  fun_induction ByteArray.toList.loop bytes i read with
  | case1 i read hlt ih =>
      have hget : bytes.get! i = bytes.data[i] := getElem!_pos bytes.data i hlt
      have hdrop : bytes.data.toList.drop i = bytes.data[i] :: bytes.data.toList.drop (i + 1) :=
        List.drop_eq_getElem_cons (by simpa using hlt)
      rw [ih, hget, hdrop, List.reverse_cons, List.append_assoc, List.singleton_append]
  | case2 i read hge =>
      rw [List.drop_eq_nil_of_le (by simpa using Nat.le_of_not_lt hge), List.append_nil]

/-- The bytes of a text are those of its characters. -/
lemma utf8Encode_eq (s : String) : utf8Encode s = utf8 s.toList :=
  (toList_loop s.toUTF8 0 []).trans (toList_bytesOf s)

lemma decodeOne_ascii {c : Char} (hc : c.toNat < 128) (rest : List UInt8) :
    decodeOne c.toUInt8 rest = .char c rest := by
  have hbyte := toNat_toUInt8 hc
  rw [decodeOne, if_pos (UInt8.lt_iff_toNat_lt.mpr (by rw [hbyte]; exact hc)), hbyte,
    Char.ofNat_toNat]

lemma decodeFrom_ascii {text : List Char} (h : IsAscii text) (read : List Char) (index : Nat) :
    decodeFrom read index (text.map Char.toUInt8) = .ok (read.reverse ++ text) := by
  induction text generalizing read index with
  | nil => rw [List.map_nil, decodeFrom, List.append_nil]
  | cons c text ih =>
      obtain ⟨hc, htext⟩ := List.forall_mem_cons.mp h
      rw [List.map_cons, decodeFrom]
      split
      all_goals
        rename_i hstep
        rw [decodeOne_ascii hc] at hstep
        cases hstep
      rw [ih htext, List.reverse_cons, List.append_assoc, List.singleton_append]

/-- **ASCII text is read from its bytes.** -/
lemma utf8Decode_ascii {s : String} (h : IsAscii s.toList) : utf8Decode (utf8Encode s) = .ok s := by
  rw [utf8Encode_eq, utf8_eq_map h, utf8Decode, decodeFrom_ascii h]
  exact congrArg Except.ok String.ofList_toList

end SqlAccess.Text
