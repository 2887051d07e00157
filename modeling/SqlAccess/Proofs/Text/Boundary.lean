import Mathlib.Tactic.Common
import SqlAccess.Proofs.Text.Bytes
import SqlAccess.Text.Abbreviated

/-!
# Boundaries between characters

Whoever holds a text as bytes cuts it at numbers of bytes, and must not cut a character in two.  A
number of bytes is a boundary exactly if the text can be cut there (`isValid_iff_cutAt?`), and one
look at the byte behind it tells, so the last boundary up to a limit is found by steps back from the
limit (`lastBoundary`), without reading the text from its start.

**`lastBoundary_eq`** — the steps back end where the longest beginning of whole characters ends that
has room within the limit.  So a text that is cut to a length is cut there (`abbreviated_eq_cut`).
The limit is missed by three bytes at most, since no character has more than four
(`le_byteCount_takeBytes`).
-/

namespace SqlAccess.Text

open Sql (bytesOf utf8 toList_bytesOf)

/-! ## Numbers of bytes -/

lemma byteCount_eq (text : List Char) : byteCount text = (utf8 text).length := by
  induction text with
  | nil => rfl
  | cons c text ih => rw [byteCount, ih, length_utf8_cons]

lemma byteCount_append (text behind : List Char) :
    byteCount (text ++ behind) = byteCount text + byteCount behind := by
  rw [byteCount_eq, byteCount_eq, byteCount_eq, length_utf8_append]

lemma utf8ByteSize_eq (s : String) : s.utf8ByteSize = byteCount s.toList := by
  rw [byteCount_eq, ← toList_bytesOf, Array.length_toList]
  rfl

/-- What begins a text has no more bytes than the text. -/
lemma byteCount_mono {before text : List Char} (h : before <+: text) :
    byteCount before ≤ byteCount text := by
  obtain ⟨behind, rfl⟩ := h
  rw [byteCount_append]
  exact Nat.le_add_right _ _

/-! ## Boundaries -/

/-- **A number of bytes is a boundary if a beginning of the text has as many.** -/
lemma isValid_iff {s : String} {n : Nat} :
    (⟨n⟩ : String.Pos.Raw).IsValid s ↔ ∃ before, before <+: s.toList ∧ byteCount before = n := by
  rw [String.Pos.Raw.isValid_iff_exists_append]
  constructor
  · rintro ⟨before, behind, rfl, hn⟩
    refine ⟨before.toList, ⟨behind.toList, (String.toList_append ..).symm⟩, ?_⟩
    rw [← utf8ByteSize_eq]
    exact (congrArg String.Pos.Raw.byteIdx hn).symm
  · rintro ⟨before, ⟨behind, htext⟩, rfl⟩
    refine ⟨String.ofList before, String.ofList behind, ?_, String.Pos.Raw.ext ?_⟩
    · rw [← String.ofList_append, htext, String.ofList_toList]
    · show _ = (String.ofList before).utf8ByteSize
      rw [utf8ByteSize_eq, String.toList_ofList]

/-- A text can be cut at its boundaries. -/
lemma isValid_iff_cutAt? {text : List Char} {n : Nat} :
    (⟨n⟩ : String.Pos.Raw).IsValid (String.ofList text) ↔ (cutAt? n text).isSome = true := by
  rw [isValid_iff, String.toList_ofList, Option.isSome_iff_exists]
  simp only [Prod.exists, cutAt?_eq_some, ← byteCount_eq]
  constructor
  · rintro ⟨before, ⟨behind, rfl⟩, hn⟩
    exact ⟨before, behind, rfl, hn⟩
  · rintro ⟨before, behind, rfl, hn⟩
    exact ⟨before, List.prefix_append before behind, hn⟩

/-! ## The longest beginning -/

lemma takeBytes_prefix (room : Nat) (text : List Char) : takeBytes room text <+: text := by
  induction text generalizing room with
  | nil => exact List.prefix_refl _
  | cons c text ih =>
      rw [takeBytes]
      split_ifs
      · exact (List.prefix_cons_inj c).mpr (ih _)
      · exact List.nil_prefix

/-- **What is taken begins with all that has room.** -/
lemma prefix_takeBytes {room : Nat} {before text : List Char} (h : before <+: text)
    (hroom : byteCount before ≤ room) : before <+: takeBytes room text := by
  induction text generalizing room before with
  | nil => exact h
  | cons c text ih =>
      cases before with
      | nil => exact List.nil_prefix
      | cons d before =>
          obtain ⟨rfl, hrest⟩ := List.cons_prefix_cons.mp h
          rw [byteCount] at hroom
          rw [takeBytes, if_pos (Nat.le_of_add_right_le hroom), List.prefix_cons_inj]
          exact ih hrest (by omega)

/-- **Of a text that has no room three bytes of the room at most are left over.** -/
lemma le_byteCount_takeBytes {room : Nat} {text : List Char} (h : room < byteCount text) :
    room ≤ byteCount (takeBytes room text) + 3 := by
  obtain ⟨behind, htext⟩ := takeBytes_prefix room text
  cases behind with
  | nil =>
      rw [List.append_nil] at htext
      rw [htext]
      omega
  | cons c behind =>
      -- With one character more it would have been taken too.
      have hmore : takeBytes room text ++ [c] <+: text :=
        ⟨behind, by rw [List.append_assoc, List.singleton_append, htext]⟩
      have hsize := c.utf8Size_le_four
      by_contra hleft
      have hroom : byteCount (takeBytes room text ++ [c]) ≤ room := by
        rw [byteCount_append, byteCount, byteCount]
        omega
      have hlength := (prefix_takeBytes hmore hroom).length_le
      rw [List.length_append, List.length_singleton] at hlength
      omega

/-! ## Steps back -/

lemma lastBoundary_le (s : String) (limit : Nat) : lastBoundary s limit ≤ limit := by
  induction limit with
  | zero => exact Nat.le_refl 0
  | succ n ih =>
      rw [lastBoundary]
      split_ifs
      · exact Nat.le_refl _
      · exact Nat.le_succ_of_le ih

/-- The steps back end at a boundary. -/
lemma isValid_lastBoundary (s : String) (limit : Nat) :
    (⟨lastBoundary s limit⟩ : String.Pos.Raw).IsValid s := by
  induction limit with
  | zero => exact String.Pos.Raw.isValid_zero
  | succ n ih =>
      rw [lastBoundary]
      split_ifs with hvalid
      · exact hvalid
      · exact ih

/-- The steps back pass no boundary. -/
lemma le_lastBoundary {s : String} {n limit : Nat} (hn : n ≤ limit)
    (hvalid : (⟨n⟩ : String.Pos.Raw).IsValid s) : n ≤ lastBoundary s limit := by
  induction limit with
  | zero => exact hn
  | succ limit ih =>
      rw [lastBoundary]
      split_ifs with hlimit
      · exact hn
      · rcases Nat.lt_or_eq_of_le hn with hlt | rfl
        · exact ih (Nat.le_of_lt_succ hlt)
        · exact absurd hvalid hlimit

/-- **The steps back end where the longest beginning ends.** -/
theorem lastBoundary_eq (s : String) (limit : Nat) :
    lastBoundary s limit = byteCount (takeBytes limit s.toList) := by
  apply Nat.le_antisymm
  · obtain ⟨before, hbefore, hcount⟩ := isValid_iff.mp (isValid_lastBoundary s limit)
    have hroom : byteCount before ≤ limit := hcount.le.trans (lastBoundary_le s limit)
    exact hcount.ge.trans (byteCount_mono (prefix_takeBytes hbefore hroom))
  · refine le_lastBoundary (byteCount_takeBytes_le limit s.toList) ?_
    exact isValid_iff.mpr ⟨_, takeBytes_prefix limit s.toList, rfl⟩

/-- **A text is cut where the steps back end**, if it has no room. -/
theorem abbreviated_eq_cut (limit : Nat) (s : String) :
    ∃ kept behind, cutAt? (lastBoundary s limit) s.toList = some (kept, behind) ∧
      abbreviated limit s.toList =
        if s.utf8ByteSize ≤ limit then s.toList else kept ++ ['.', '.', '.'] := by
  obtain ⟨behind, htext⟩ := takeBytes_prefix limit s.toList
  refine ⟨takeBytes limit s.toList, behind, cutAt?_eq_some.mpr ⟨htext.symm, ?_⟩, ?_⟩
  · rw [lastBoundary_eq, byteCount_eq]
  · rw [abbreviated, utf8ByteSize_eq]

end SqlAccess.Text
