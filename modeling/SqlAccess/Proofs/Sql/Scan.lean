import Mathlib.Data.List.Infix
import Mathlib.Tactic.Common
import SqlAccess.Sql.Scan

/-!
# The walk over bytes and what is left of it

The scan of a statement knows places only.  To say what it meets, a place is taken for the bytes
that are left from it on, and the place behind a piece is told by how much is left there
(`commentEnd?_eq`, `quotedEnd?_eq`).

* `lineRest`, `blockRest`, `commentRest?`, `insideRest`, `quotedRest?` — what is left behind a piece.
* `severalFrom_comment`, `severalFrom_quoted`, `severalFrom_other` — one step of the walk for each
  kind of piece.
-/

namespace SqlAccess.Sql

/-! ## What is left -/

/-- What is left behind the current line. -/
def lineRest : List UInt8 → List UInt8
  | [] => []
  | b :: bytes => if b = '\n'.toUInt8 then bytes else lineRest bytes

/-- What is left behind the next `*/`. -/
def blockRest : List UInt8 → List UInt8
  | [] => []
  | [_] => []
  | b :: d :: bytes =>
    if b = '*'.toUInt8 ∧ d = '/'.toUInt8 then bytes else blockRest (d :: bytes)

/-- Whether bytes begin with a comment that takes the rest of its line. -/
def beginsLine (bytes : List UInt8) : Bool :=
  bytes[0]? == some '#'.toUInt8 ||
    bytes[0]? == some '-'.toUInt8 && bytes[1]? == some '-'.toUInt8 && bytes[2]?.all isBlankByte

/-- Whether bytes begin with a comment that takes all up to the next `*/`. -/
def beginsBlock (bytes : List UInt8) : Bool :=
  bytes[0]? == some '/'.toUInt8 && bytes[1]? == some '*'.toUInt8

/-- What is left behind the comment at the head of bytes, if there is one. -/
def commentRest? (bytes : List UInt8) : Option (List UInt8) :=
  if beginsLine bytes then some (lineRest bytes)
  else if beginsBlock bytes then some (blockRest (bytes.drop 2))
  else none

/-- What is left behind the quoted piece whose inside is at the head of bytes. -/
def insideRest (quote : UInt8) : List UInt8 → List UInt8
  | [] => []
  | [_] => []
  | b :: d :: bytes =>
    if b = '\\'.toUInt8 ∧ quote ≠ backtick.toUInt8 then insideRest quote bytes
    else if b = quote then if d = quote then insideRest quote bytes else d :: bytes
    else insideRest quote (d :: bytes)

/-- What is left behind the quoted piece at the head of bytes, if there is one. -/
def quotedRest? : List UInt8 → Option (List UInt8)
  | [] => none
  | b :: bytes => if isQuoteByte b then some (insideRest b bytes) else none

/-! ### What it steps over -/

/-- Bytes that end no line are a part of it. -/
lemma lineRest_append {bytes more : List UInt8} (h : ∀ b ∈ bytes, b ≠ '\n'.toUInt8) :
    lineRest (bytes ++ more) = lineRest more := by
  induction bytes with
  | nil => rfl
  | cons b bytes ih =>
      obtain ⟨hb, hrest⟩ := List.forall_mem_cons.mp h
      rw [List.cons_append, lineRest, if_neg hb, ih hrest]

lemma blockRest_cons {b : UInt8} (h : b ≠ '*'.toUInt8) (bytes : List UInt8) :
    blockRest (b :: bytes) = blockRest bytes := by
  cases bytes with
  | nil => rfl
  | cons d bytes => rw [blockRest, if_neg fun hboth => h hboth.1]

/-- Bytes without a star are a part of the block. -/
lemma blockRest_append {bytes more : List UInt8} (h : ∀ b ∈ bytes, b ≠ '*'.toUInt8) :
    blockRest (bytes ++ more) = blockRest more := by
  induction bytes with
  | nil => rfl
  | cons b bytes ih =>
      obtain ⟨hb, hrest⟩ := List.forall_mem_cons.mp h
      rw [List.cons_append, blockRest_cons hb, ih hrest]

/-- A star that no slash follows is a part of the block. -/
lemma blockRest_star {bytes : List UInt8} (h : bytes.head? ≠ some '/'.toUInt8) :
    blockRest ('*'.toUInt8 :: bytes) = blockRest bytes := by
  cases bytes with
  | nil => rfl
  | cons d bytes => rw [blockRest, if_neg fun hboth => h (by rw [hboth.2, List.head?_cons])]

lemma insideRest_cons {quote b : UInt8} (hquote : b ≠ quote)
    (hescape : b = '\\'.toUInt8 → quote = backtick.toUInt8) (bytes : List UInt8) :
    insideRest quote (b :: bytes) = insideRest quote bytes := by
  cases bytes with
  | nil => rfl
  | cons d bytes => rw [insideRest, if_neg fun hboth => hboth.2 (hescape hboth.1), if_neg hquote]

/-- Bytes that are neither the mark nor escape what follows are a part of the piece. -/
lemma insideRest_append {quote : UInt8} {bytes more : List UInt8}
    (h : ∀ b ∈ bytes, b ≠ quote ∧ (b = '\\'.toUInt8 → quote = backtick.toUInt8)) :
    insideRest quote (bytes ++ more) = insideRest quote more := by
  induction bytes with
  | nil => rfl
  | cons b bytes ih =>
      obtain ⟨hb, hrest⟩ := List.forall_mem_cons.mp h
      rw [List.cons_append, insideRest_cons hb.1 hb.2, ih hrest]

/-- Where no comment begins. -/
lemma commentRest?_eq_none {b : UInt8} {bytes : List UInt8} (hhash : b ≠ '#'.toUInt8)
    (hminus : b = '-'.toUInt8 → bytes.head? ≠ some '-'.toUInt8)
    (hslash : b = '/'.toUInt8 → bytes.head? ≠ some '*'.toUInt8) :
    commentRest? (b :: bytes) = none := by
  rw [List.head?_eq_getElem?] at hminus hslash
  have hline : beginsLine (b :: bytes) = false := by grind [beginsLine]
  have hblock : beginsBlock (b :: bytes) = false := by grind [beginsBlock]
  rw [commentRest?, hline, hblock]
  rfl

/-- Two minus signs begin a comment if a blank or nothing follows. -/
lemma commentRest?_minus (bytes : List UInt8) :
    commentRest? ('-'.toUInt8 :: '-'.toUInt8 :: bytes) =
      if bytes.head?.all isBlankByte then some (lineRest bytes) else none := by
  have hline : beginsLine ('-'.toUInt8 :: '-'.toUInt8 :: bytes) = bytes.head?.all isBlankByte := by
    rw [List.head?_eq_getElem?]
    rfl
  rw [commentRest?, hline]
  rfl

lemma commentRest?_block (bytes : List UInt8) :
    commentRest? ('/'.toUInt8 :: '*'.toUInt8 :: bytes) = some (blockRest bytes) := by
  rfl

/-! ### It is a part of what was there -/

lemma lineRest_suffix (bytes : List UInt8) : lineRest bytes <:+ bytes := by
  induction bytes with
  | nil => exact List.suffix_refl _
  | cons b bytes ih =>
      rw [lineRest]
      split_ifs
      · exact List.suffix_cons b bytes
      · exact ih.trans (List.suffix_cons b bytes)

lemma blockRest_suffix (bytes : List UInt8) : blockRest bytes <:+ bytes := by
  fun_induction blockRest bytes with
  | case1 => exact List.suffix_refl _
  | case2 => exact List.nil_suffix
  | case3 b d bytes => exact (List.suffix_cons d bytes).trans (List.suffix_cons b _)
  | case4 b d bytes _ ih => exact ih.trans (List.suffix_cons b _)

lemma insideRest_suffix (quote : UInt8) (bytes : List UInt8) :
    insideRest quote bytes <:+ bytes := by
  fun_induction insideRest quote bytes with
  | case1 => exact List.suffix_refl _
  | case2 => exact List.nil_suffix
  | case3 b d bytes _ ih => exact ih.trans ((List.suffix_cons d bytes).trans (List.suffix_cons b _))
  | case4 bytes _ ih => exact ih.trans ((List.suffix_cons _ bytes).trans (List.suffix_cons _ _))
  | case5 d bytes => exact List.suffix_cons _ _
  | case6 b d bytes _ _ ih => exact ih.trans (List.suffix_cons b _)

lemma commentRest?_suffix {bytes rest : List UInt8} (h : commentRest? bytes = some rest) :
    rest <:+ bytes := by
  unfold commentRest? at h
  split_ifs at h
  · cases h
    exact lineRest_suffix bytes
  · cases h
    exact (blockRest_suffix _).trans (List.drop_suffix 2 bytes)

lemma quotedRest?_suffix {bytes rest : List UInt8} (h : quotedRest? bytes = some rest) :
    rest <:+ bytes := by
  cases bytes with
  | nil => cases h
  | cons b bytes =>
      rw [quotedRest?] at h
      split_ifs at h
      cases h
      exact (insideRest_suffix b bytes).trans (List.suffix_cons b bytes)

/-! ## Places are told by what is left -/

section Places

variable (bytes : Array UInt8) (i : Nat)

lemma toList_drop_of_lt {bytes : Array UInt8} {i : Nat} (h : i < bytes.size) :
    bytes.toList.drop i = bytes[i] :: bytes.toList.drop (i + 1) :=
  List.drop_eq_getElem_cons (by simpa using h)

lemma toList_drop_of_le {bytes : Array UInt8} {i : Nat} (h : bytes.size ≤ i) :
    bytes.toList.drop i = [] :=
  List.drop_eq_nil_of_le (by simpa using h)

lemma lt_size_of_drop_ne_nil {bytes : Array UInt8} {i : Nat} (h : bytes.toList.drop i ≠ []) :
    i < bytes.size := by
  simpa using h

lemma getElem?_toList_drop (k : Nat) : (bytes.toList.drop i)[k]? = bytes[i + k]? := by
  rw [List.getElem?_drop, Array.getElem?_toList]

/-- How much is left tells the place. -/
lemma size_sub_length_drop {bytes : Array UInt8} {i : Nat} (h : i ≤ bytes.size) :
    bytes.size - (bytes.toList.drop i).length = i := by
  rw [List.length_drop, Array.length_toList]
  omega

lemma lineEnd_eq :
    lineEnd bytes i = bytes.size - (lineRest (bytes.toList.drop i)).length := by
  fun_induction lineEnd bytes i with
  | case1 i hi hend =>
      rw [toList_drop_of_lt hi, lineRest, if_pos hend, size_sub_length_drop hi]
  | case2 i hi hend ih => rw [ih, toList_drop_of_lt hi, lineRest, if_neg hend]
  | case3 i hi =>
      rw [toList_drop_of_le (Nat.le_of_not_lt hi)]
      rfl

lemma blockEnd_eq :
    blockEnd bytes i = bytes.size - (blockRest (bytes.toList.drop i)).length := by
  fun_induction blockEnd bytes i with
  | case1 i hi hend =>
      rw [toList_drop_of_lt (Nat.lt_of_succ_lt hi), toList_drop_of_lt hi, blockRest, if_pos hend,
        size_sub_length_drop hi]
  | case2 i hi hend ih =>
      rw [ih, toList_drop_of_lt (Nat.lt_of_succ_lt hi), toList_drop_of_lt hi, blockRest,
        if_neg hend]
  | case3 i hi =>
      -- One byte at most is left, and no block ends with it.
      rcases Nat.lt_or_ge i bytes.size with hlast | hpast
      · rw [toList_drop_of_lt hlast, toList_drop_of_le (Nat.le_of_not_lt hi)]
        rfl
      · rw [toList_drop_of_le hpast]
        rfl

/-- **The place behind a comment.** -/
lemma commentEnd?_eq :
    commentEnd? bytes i =
      (commentRest? (bytes.toList.drop i)).map fun rest => bytes.size - rest.length := by
  have hline : beginsLine (bytes.toList.drop i) = opensLine bytes i := by
    simp only [beginsLine, opensLine, getElem?_toList_drop, Nat.add_zero]
  have hblock : beginsBlock (bytes.toList.drop i) = opensBlock bytes i := by
    simp only [beginsBlock, opensBlock, getElem?_toList_drop, Nat.add_zero]
  rw [commentEnd?, commentRest?, hline, hblock, lineEnd_eq, blockEnd_eq, List.drop_drop]
  split_ifs <;> rfl

lemma insideEnd_eq (quote : UInt8) :
    insideEnd quote bytes i =
      bytes.size - (insideRest quote (bytes.toList.drop i)).length := by
  fun_induction insideEnd quote bytes i with
  | case1 i hi hescape ih =>
      rw [ih, toList_drop_of_lt hi]
      rcases Nat.lt_or_ge (i + 1) bytes.size with hnext | hlast
      · rw [toList_drop_of_lt hnext, insideRest, if_pos hescape]
      · rw [toList_drop_of_le hlast, toList_drop_of_le (Nat.le_succ_of_le hlast)]
        rfl
  | case2 i hi hescape hquote hdoubled ih =>
      obtain ⟨hnext, hsame⟩ := Array.getElem?_eq_some_iff.mp hdoubled
      rw [ih, toList_drop_of_lt hi, toList_drop_of_lt hnext, insideRest, if_neg hescape,
        if_pos hquote, if_pos hsame]
  | case3 i hi hescape hquote hdoubled =>
      rw [toList_drop_of_lt hi]
      rcases Nat.lt_or_ge (i + 1) bytes.size with hnext | hlast
      · have hother : bytes[i + 1] ≠ quote := fun hsame =>
          hdoubled (Array.getElem?_eq_some_iff.mpr ⟨hnext, hsame⟩)
        rw [toList_drop_of_lt hnext, insideRest, if_neg hescape, if_pos hquote, if_neg hother,
          ← toList_drop_of_lt hnext, size_sub_length_drop hi]
      · rw [toList_drop_of_le hlast]
        exact Nat.le_antisymm hi hlast
  | case4 i hi hescape hquote ih =>
      rw [ih, toList_drop_of_lt hi]
      rcases Nat.lt_or_ge (i + 1) bytes.size with hnext | hlast
      · rw [toList_drop_of_lt hnext, insideRest, if_neg hescape, if_neg hquote]
      · rw [toList_drop_of_le hlast]
        rfl
  | case5 i hi =>
      rw [toList_drop_of_le (Nat.le_of_not_lt hi)]
      rfl

/-- **The place behind a quoted piece.** -/
lemma quotedEnd?_eq :
    quotedEnd? bytes i =
      (quotedRest? (bytes.toList.drop i)).map fun rest => bytes.size - rest.length := by
  unfold quotedEnd?
  rcases Nat.lt_or_ge i bytes.size with hi | hi
  · rw [Array.getElem?_eq_getElem hi, toList_drop_of_lt hi, quotedRest?]
    simp only
    split_ifs
    · rw [insideEnd_eq]
      rfl
    · rfl
  · rw [Array.getElem?_eq_none hi, toList_drop_of_le hi]
    rfl

end Places

/-! ## Steps of the walk -/

section Steps

variable {bytes : Array UInt8} {i : Nat} (ended : Bool)

/-- What is left at some place is left at the place that its length tells. -/
lemma drop_size_sub_length {rest : List UInt8} (h : rest <:+ bytes.toList.drop i) :
    bytes.toList.drop (bytes.size - rest.length) = rest := by
  have hsuffix := h.trans (List.drop_suffix i bytes.toList)
  rw [← Array.length_toList]
  exact (List.suffix_iff_eq_drop.mp hsuffix).symm

/-- A blank opens no quoted piece. -/
lemma isBlankByte_of_isQuoteByte {b : UInt8} (h : isQuoteByte b = true) :
    isBlankByte b = false := by
  have hquote : isQuote (Char.ofUInt8 b) = true := h
  unfold isBlankByte
  generalize Char.ofUInt8 b = c at hquote
  simp only [isQuote, Bool.or_eq_true, beq_iff_eq] at hquote
  rcases hquote with (rfl | rfl) | rfl <;> decide

lemma severalFrom_nil (h : bytes.toList.drop i = []) : severalFrom bytes ended i = false := by
  have hi : ¬i < bytes.size := by simpa using h
  rw [severalFrom, dif_neg hi]

/-- A comment is skipped. -/
lemma severalFrom_comment {rest : List UInt8}
    (h : commentRest? (bytes.toList.drop i) = some rest) :
    ∃ next, bytes.toList.drop next = rest ∧
      severalFrom bytes ended i = severalFrom bytes ended next := by
  refine ⟨bytes.size - rest.length, drop_size_sub_length (commentRest?_suffix h), ?_⟩
  have hi : i < bytes.size := by
    refine lt_size_of_drop_ne_nil fun hnil => ?_
    rw [hnil] at h
    cases h
  have hend := commentEnd?_eq bytes i
  rw [h, Option.map_some] at hend
  rw [severalFrom, dif_pos hi]
  split <;> simp_all

/-- A quoted piece is skipped, unless it is the second statement. -/
lemma severalFrom_quoted {rest : List UInt8}
    (hcomment : commentRest? (bytes.toList.drop i) = none)
    (h : quotedRest? (bytes.toList.drop i) = some rest) :
    ∃ next, bytes.toList.drop next = rest ∧
      severalFrom bytes ended i = (ended || severalFrom bytes ended next) := by
  refine ⟨bytes.size - rest.length, drop_size_sub_length (quotedRest?_suffix h), ?_⟩
  have hi : i < bytes.size := by
    refine lt_size_of_drop_ne_nil fun hnil => ?_
    rw [hnil] at h
    cases h
  have hblank : isBlankByte bytes[i] = false := by
    refine isBlankByte_of_isQuoteByte ?_
    by_contra hquote
    rw [toList_drop_of_lt hi, quotedRest?, if_neg hquote] at h
    cases h
  have hcommentEnd := commentEnd?_eq bytes i
  rw [hcomment, Option.map_none] at hcommentEnd
  have hquotedEnd := quotedEnd?_eq bytes i
  rw [h, Option.map_some] at hquotedEnd
  rw [severalFrom, dif_pos hi]
  cases ended with
  | true =>
      -- It is no blank, so it is the second statement.
      split <;> simp_all
  | false =>
      split
      · simp_all
      · rw [if_neg (by simp)]
        split <;> simp_all

/-- Any other byte counts by itself. -/
lemma severalFrom_other {b : UInt8} {rest : List UInt8} (hdrop : bytes.toList.drop i = b :: rest)
    (hcomment : commentRest? (b :: rest) = none) (hquoted : quotedRest? (b :: rest) = none) :
    bytes.toList.drop (i + 1) = rest ∧
      severalFrom bytes ended i =
        (ended && !isBlankByte b || severalFrom bytes (ended || b == ';'.toUInt8) (i + 1)) := by
  have hi : i < bytes.size := lt_size_of_drop_ne_nil (hdrop ▸ List.cons_ne_nil b rest)
  obtain ⟨rfl, rfl⟩ := List.cons.inj ((toList_drop_of_lt hi).symm.trans hdrop)
  refine ⟨rfl, ?_⟩
  have hcommentEnd := commentEnd?_eq bytes i
  rw [hdrop, hcomment, Option.map_none] at hcommentEnd
  have hquotedEnd := quotedEnd?_eq bytes i
  rw [hdrop, hquoted, Option.map_none] at hquotedEnd
  rw [severalFrom, dif_pos hi]
  split
  · simp_all
  · split_ifs with hended
    · simp [hended]
    · split
      · simp_all
      · simp [hended]

end Steps

end SqlAccess.Sql
