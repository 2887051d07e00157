import SqlAccess.Proofs.Sql.Groups
import SqlAccess.Proofs.Text.Boundary
import SqlAccess.Sql.Places

/-!
# The ends of pieces are boundaries

A walk over bytes knows nothing of characters, and a backslash may take it into the middle of one.
Here a place is told by the characters that are left behind it (`Leaves`), which only boundaries
have, and what ends at a place is told by what the same step over characters leaves.  So each end is
a boundary because it has something to be equal to: `Leaves.commentEnd?`, `Leaves.quotedEnd?`,
`Leaves.silenceEnd`, `Leaves.groupEndFrom` and `Leaves.nameEnd?`.

Behind its first byte no character has a byte that anything is looked for by, so between two
characters a walk only goes on (`groupEndFrom_high`).
-/

namespace SqlAccess.Sql

open Text (length_utf8_append)

/-! ## Places and what is left behind them -/

/-- The place `i` of a text is a boundary, and `rest` is left behind it. -/
def Leaves (text : List Char) (i : Nat) (rest : List Char) : Prop :=
  ∃ before, text = before ++ rest ∧ (utf8 before).length = i

/-- What is left behind a boundary. -/
lemma exists_leaves {text : List Char} {i : Nat}
    (h : (⟨i⟩ : String.Pos.Raw).IsValid (String.ofList text)) : ∃ rest, Leaves text i rest := by
  obtain ⟨⟨before, rest⟩, hcut⟩ := Option.isSome_iff_exists.mp (Text.isValid_iff_cutAt?.mp h)
  exact ⟨rest, before, Text.cutAt?_eq_some.mp hcut⟩

lemma leaves_zero (text : List Char) : Leaves text 0 text :=
  ⟨[], rfl, rfl⟩

namespace Leaves

variable {text rest : List Char} {i : Nat}

lemma cutAt? (h : Leaves text i rest) : ∃ before, Text.cutAt? i text = some (before, rest) := by
  obtain ⟨before, hbefore⟩ := h
  exact ⟨before, Text.cutAt?_eq_some.mpr hbefore⟩

lemma isValid (h : Leaves text i rest) : (⟨i⟩ : String.Pos.Raw).IsValid (String.ofList text) := by
  obtain ⟨before, hcut⟩ := h.cutAt?
  exact Text.isValid_iff_cutAt?.mpr (Option.isSome_iff_exists.mpr ⟨_, hcut⟩)

/-- The bytes behind a boundary are those of the characters behind it. -/
lemma drop (h : Leaves text i rest) : (bytesOf (String.ofList text)).toList.drop i = utf8 rest := by
  obtain ⟨before, rfl, rfl⟩ := h
  rw [toList_bytesOf, String.toList_ofList, utf8_append, List.drop_left]

/-- Bytes in front and bytes behind are all bytes. -/
lemma size (h : Leaves text i rest) :
    (bytesOf (String.ofList text)).size = i + (utf8 rest).length := by
  obtain ⟨before, rfl, rfl⟩ := h
  rw [← Array.length_toList, toList_bytesOf, String.toList_ofList, length_utf8_append]

/-- A place further behind. -/
lemma append {piece : List Char} (h : Leaves text i (piece ++ rest)) :
    Leaves text (i + (utf8 piece).length) rest := by
  obtain ⟨before, rfl, rfl⟩ := h
  exact ⟨before ++ piece, (List.append_assoc ..).symm, length_utf8_append before piece⟩

lemma cons {c : Char} (h : Leaves text i (c :: rest)) :
    Leaves text (i + (String.utf8EncodeChar c).length) rest := by
  have hrest : Leaves text (i + (utf8 [c]).length) rest := h.append
  rwa [utf8_cons, List.length_append, show utf8 [] = [] from rfl, List.length_nil,
    Nat.add_zero] at hrest

lemma cons_ascii {c : Char} (hc : c.toNat < 128) (h : Leaves text i (c :: rest)) :
    Leaves text (i + 1) rest := by
  have hrest := h.cons
  rwa [utf8EncodeChar_ascii hc] at hrest

/-- How much is left tells the place, also of what is left later. -/
lemma of_suffix {behind : List Char} (h : Leaves text i rest) (hsuffix : behind <:+ rest) :
    Leaves text ((bytesOf (String.ofList text)).size - (utf8 behind).length) behind := by
  obtain ⟨piece, rfl⟩ := hsuffix
  have hsize := h.append.size
  rw [hsize, Nat.add_sub_cancel]
  exact h.append

/-- The further behind, the less is left. -/
lemma length_le {more : List Char} {j : Nat} (h : Leaves text i rest) (hmore : Leaves text j more)
    (hle : i ≤ j) : more.length ≤ rest.length := by
  obtain ⟨before, htext, hi⟩ := h
  obtain ⟨before', htext', hj⟩ := hmore
  have hprefix : before <+: before' := by
    rcases List.prefix_or_prefix_of_prefix ⟨rest, htext.symm⟩ ⟨more, htext'.symm⟩ with h | h
    · exact h
    · -- The other way round the two are the same.
      obtain ⟨piece, rfl⟩ := h
      rw [length_utf8_append] at hi
      have hnone : piece = [] := Text.length_utf8_eq_zero.mp (by omega)
      rw [hnone, List.append_nil]
  have hlength := congrArg List.length (htext.symm.trans htext')
  have hbefore := hprefix.length_le
  rw [List.length_append, List.length_append] at hlength
  omega

/-- Before the end a byte of the next character stands. -/
lemma getElem {c : Char} (h : Leaves text i (c :: rest)) :
    ∃ hi : i < (bytesOf (String.ofList text)).size,
      (bytesOf (String.ofList text))[i] ∈ String.utf8EncodeChar c := by
  obtain ⟨b, bytes, hbytes⟩ := exists_utf8EncodeChar c
  have hdrop := h.drop
  rw [utf8_cons, hbytes, List.cons_append] at hdrop
  have hi := lt_size_of_drop_ne_nil (hdrop ▸ List.cons_ne_nil _ _)
  rw [toList_drop_of_lt hi] at hdrop
  refine ⟨hi, ?_⟩
  rw [(List.cons.inj hdrop).1, hbytes]
  exact List.mem_cons_self

/-- An ASCII byte stands where its character stands. -/
lemma getElem?_eq_some {d : Char} (h : Leaves text i rest) (hd : d.toNat < 128) :
    (bytesOf (String.ofList text))[i]? = some d.toUInt8 ↔ rest.head? = some d := by
  rw [← head?_utf8 hd, ← h.drop, List.head?_drop, Array.getElem?_toList]

/-- At the end no byte is left. -/
lemma eq_size (h : Leaves text i []) : i = (bytesOf (String.ofList text)).size :=
  h.size.symm

lemma not_lt_size (h : Leaves text i []) : ¬i < (bytesOf (String.ofList text)).size :=
  Nat.not_lt.mpr h.eq_size.ge

end Leaves

/-! ## Comments and quoted pieces -/

section Pieces

variable {text rest : List Char} {i : Nat}

lemma exists_of_rel_some {α β : Type} {r : α → β → Prop} {a? : Option α} {b : β}
    (h : Option.Rel r a? (some b)) : ∃ a, a? = some a ∧ r a b := by
  obtain ⟨hr⟩ := h
  exact ⟨_, rfl, hr⟩

lemma eq_none_of_rel_none {α β : Type} {r : α → β → Prop} {a? : Option α}
    (h : Option.Rel r a? (none : Option β)) : a? = none := by
  cases h
  rfl

/-- A step over bytes that agrees with a step over characters comes to a boundary. -/
lemma Leaves.map {end? : Option Nat} {after? : Option (List Char)} (h : Leaves text i rest)
    (hend : end? = (after?.map utf8).map fun behind =>
      (bytesOf (String.ofList text)).size - behind.length)
    (hsuffix : ∀ behind, after? = some behind → behind <:+ rest) :
    Option.Rel (Leaves text) end? after? := by
  rw [hend]
  cases after? with
  | none => exact .none
  | some behind => exact .some (h.of_suffix (hsuffix behind rfl))

/-- **A comment ends at a boundary.** -/
lemma Leaves.commentEnd? (h : Leaves text i rest) :
    Option.Rel (Leaves text) (commentEnd? (bytesOf (String.ofList text)) i)
      (afterComment? rest) :=
  h.map (by rw [commentEnd?_eq, h.drop, commentRest?_utf8]) fun _ => afterComment?_suffix

/-- **A quoted piece ends at a boundary**, although a backslash in it may take the walk into the
middle of a character. -/
lemma Leaves.quotedEnd? (h : Leaves text i rest) :
    Option.Rel (Leaves text) (quotedEnd? (bytesOf (String.ofList text)) i) (afterQuote? rest) :=
  h.map (by rw [quotedEnd?_eq, h.drop, quotedRest?_utf8]) fun _ => afterQuote?_suffix

end Pieces

/-! ## Silence -/

section Silence

variable {bytes : Array UInt8} {i : Nat}

lemma silenceEnd_of_blank (hi : i < bytes.size) (hblank : isBlankByte bytes[i] = true) :
    silenceEnd bytes i = silenceEnd bytes (i + 1) := by
  rw [silenceEnd, dif_pos hi, if_pos hblank]

lemma silenceEnd_of_commentEnd? {next : Nat} (hi : i < bytes.size)
    (hblank : isBlankByte bytes[i] = false) (hcomment : commentEnd? bytes i = some next) :
    silenceEnd bytes i = silenceEnd bytes next := by
  rw [silenceEnd, dif_pos hi, hblank, if_neg Bool.false_ne_true]
  split <;> simp_all

lemma silenceEnd_of_none (hi : i < bytes.size) (hblank : isBlankByte bytes[i] = false)
    (hcomment : commentEnd? bytes i = none) : silenceEnd bytes i = i := by
  rw [silenceEnd, dif_pos hi, hblank, if_neg Bool.false_ne_true]
  split <;> simp_all

/-- **Silence ends at a boundary.** -/
lemma Leaves.silenceEnd {text rest : List Char} (h : Leaves text i rest) :
    Leaves text (silenceEnd (bytesOf (String.ofList text)) i) (dropSilence rest) := by
  fun_induction dropSilence rest generalizing i with
  | case1 =>
      rw [Sql.silenceEnd, dif_neg h.not_lt_size]
      exact h
  | case2 c rest behind hcomment ih =>
      obtain ⟨hi, hbyte⟩ := h.getElem
      have hblank : Text.isAsciiBlank c = false := by
        by_contra hblank
        rw [afterComment?_of_isAsciiBlank (by simpa using hblank)] at hcomment
        cases hcomment
      obtain ⟨next, hend, hnext⟩ := exists_of_rel_some (hcomment ▸ h.commentEnd?)
      rw [silenceEnd_of_commentEnd? hi ((isBlankByte_of_mem hbyte).trans hblank) hend]
      exact ih hnext
  | case3 c rest hcomment hblank ih =>
      obtain ⟨hi, hbyte⟩ := h.getElem
      rw [silenceEnd_of_blank hi ((isBlankByte_of_mem hbyte).trans hblank)]
      exact ih (h.cons_ascii (toNat_lt_of_isAsciiBlank hblank))
  | case4 c rest hcomment hblank =>
      obtain ⟨hi, hbyte⟩ := h.getElem
      rw [silenceEnd_of_none hi ((isBlankByte_of_mem hbyte).trans (by simpa using hblank))
        (eq_none_of_rel_none (hcomment ▸ h.commentEnd?))]
      exact h

end Silence

/-! ## Groups -/

section Groups

variable {bytes : Array UInt8} {depth i : Nat}

lemma groupEndFrom_of_pieceEnd? {next : Nat} (hi : i < bytes.size)
    (hpiece : pieceEnd? bytes i = some next) :
    groupEndFrom bytes depth i = groupEndFrom bytes depth next := by
  rw [groupEndFrom, dif_pos hi]
  split <;> simp_all

lemma groupEndFrom_of_none (hi : i < bytes.size) (hpiece : pieceEnd? bytes i = none) :
    groupEndFrom bytes depth i =
      if bytes[i] = '('.toUInt8 then groupEndFrom bytes (depth + 1) (i + 1)
      else if bytes[i] = ')'.toUInt8 then
        if depth - 1 = 0 then i + 1 else groupEndFrom bytes (depth - 1) (i + 1)
      else groupEndFrom bytes depth (i + 1) := by
  rw [groupEndFrom, dif_pos hi]
  split <;> simp_all

lemma pieceEnd?_of_high {b : UInt8} {rest : List UInt8} (hb : 128 ≤ b.toNat)
    (hdrop : bytes.toList.drop i = b :: rest) : pieceEnd? bytes i = none := by
  rw [pieceEnd?, commentEnd?_eq, quotedEnd?_eq, hdrop, commentRest?_of_high hb,
    quotedRest?_of_high hb]
  rfl

/-- Bytes that are no ASCII bytes are gone over one by one. -/
lemma groupEndFrom_high {high more : List UInt8} (hhigh : ∀ b ∈ high, 128 ≤ b.toNat)
    (hdrop : bytes.toList.drop i = high ++ more) :
    groupEndFrom bytes depth i = groupEndFrom bytes depth (i + high.length) := by
  induction high generalizing i with
  | nil => rfl
  | cons b high ih =>
      obtain ⟨hb, hrest⟩ := List.forall_mem_cons.mp hhigh
      have hi : i < bytes.size := lt_size_of_drop_ne_nil (hdrop ▸ List.cons_ne_nil _ _)
      have hpiece := pieceEnd?_of_high hb hdrop
      obtain ⟨rfl, hnext⟩ := List.cons.inj ((toList_drop_of_lt hi).symm.trans hdrop)
      rw [groupEndFrom_of_none hi hpiece, if_neg (ne_toUInt8_of_high hb (by decide)),
        if_neg (ne_toUInt8_of_high hb (by decide)), ih hrest hnext, List.length_cons,
        Nat.add_assoc, Nat.add_comm 1]

/-- A comment or a quoted piece ends at a boundary. -/
lemma Leaves.pieceEnd? {text rest : List Char} (h : Leaves text i rest) :
    Option.Rel (Leaves text) (pieceEnd? (bytesOf (String.ofList text)) i)
      ((afterComment? rest).or (afterQuote? rest)) := by
  rw [Sql.pieceEnd?]
  have hcomment := h.commentEnd?
  generalize Sql.commentEnd? _ i = end?, afterComment? rest = after? at hcomment
  cases hcomment with
  | some hnext => exact .some hnext
  | none => exact h.quotedEnd?

/-- A piece in a group is gone over. -/
lemma Leaves.groupEndFrom_piece {text rest behind : List Char} (h : Leaves text i rest)
    (hpiece : (afterComment? rest).or (afterQuote? rest) = some behind) :
    ∃ next, Leaves text next behind ∧
      groupEndFrom (bytesOf (String.ofList text)) depth i =
        groupEndFrom (bytesOf (String.ofList text)) depth next := by
  have hrel := h.pieceEnd?
  rw [hpiece] at hrel
  obtain ⟨next, hend, hnext⟩ := exists_of_rel_some hrel
  cases rest with
  | nil => cases hpiece
  | cons c rest =>
      obtain ⟨hi, -⟩ := h.getElem
      exact ⟨next, hnext, groupEndFrom_of_pieceEnd? hi hend⟩

/-- Any other character counts by itself, with all its bytes. -/
lemma Leaves.groupEndFrom_character {text rest : List Char} {c : Char}
    (h : Leaves text i (c :: rest)) (hcomment : afterComment? (c :: rest) = none)
    (hquote : afterQuote? (c :: rest) = none) :
    groupEndFrom (bytesOf (String.ofList text)) depth i =
      if c = '(' then groupEndFrom (bytesOf (String.ofList text)) (depth + 1) (i + 1)
      else if c = ')' then
        if depth - 1 = 0 then i + 1
        else groupEndFrom (bytesOf (String.ofList text)) (depth - 1) (i + 1)
      else groupEndFrom (bytesOf (String.ofList text)) depth
        (i + (String.utf8EncodeChar c).length) := by
  have hpiece := h.pieceEnd?
  rw [hcomment, hquote] at hpiece
  rcases Nat.lt_or_ge c.toNat 128 with hc | hc
  · obtain ⟨hi, hbyte⟩ := h.getElem
    rw [groupEndFrom_of_none hi (eq_none_of_rel_none hpiece), utf8EncodeChar_ascii hc]
    simp only [eq_toUInt8_iff hbyte (by decide : '('.toNat < 128),
      eq_toUInt8_iff hbyte (by decide : ')'.toNat < 128), List.length_singleton]
  · have hother {d : Char} (hd : d.toNat < 128) : c ≠ d := by
      rintro rfl
      omega
    rw [if_neg (hother (by decide)), if_neg (hother (by decide))]
    refine groupEndFrom_high (fun b hb => ?_) (h.drop.trans (utf8_cons c rest))
    exact (mem_utf8EncodeChar hb).elim (fun hlow => absurd hlow.1 (Nat.not_lt.mpr hc)) And.right

/-- **A group ends at a boundary**, however many parentheses are open. -/
lemma Leaves.groupEndFrom {text rest : List Char} (h : Leaves text i rest) :
    Leaves text (groupEndFrom (bytesOf (String.ofList text)) depth i) (afterGroup depth rest) := by
  fun_induction afterGroup depth rest generalizing i with
  | case1 depth =>
      rw [Sql.groupEndFrom, dif_neg h.not_lt_size, ← h.eq_size]
      exact h
  | case2 depth c rest behind hcomment ih =>
      obtain ⟨next, hnext, hstep⟩ := h.groupEndFrom_piece (by rw [hcomment, Option.some_or])
      rw [hstep]
      exact ih hnext
  | case3 depth c rest hcomment behind hquote ih =>
      obtain ⟨next, hnext, hstep⟩ :=
        h.groupEndFrom_piece (by rw [hcomment, Option.none_or, hquote])
      rw [hstep]
      exact ih hnext
  | case4 depth rest hcomment hquote ih =>
      rw [h.groupEndFrom_character hcomment hquote, if_pos rfl]
      exact ih (h.cons_ascii (by decide))
  | case5 depth rest _ hcomment hquote hdepth =>
      rw [h.groupEndFrom_character hcomment hquote, if_neg (by decide), if_pos rfl,
        if_pos (by omega)]
      exact h.cons_ascii (by decide)
  | case6 depth rest _ hcomment hquote hdepth ih =>
      rw [h.groupEndFrom_character hcomment hquote, if_neg (by decide), if_pos rfl,
        if_neg (by omega)]
      exact ih (h.cons_ascii (by decide))
  | case7 depth c rest hcomment hquote hopen hclose ih =>
      rw [h.groupEndFrom_character hcomment hquote, if_neg hopen, if_neg hclose]
      exact ih h.cons

end Groups

/-! ## Names -/

section Names

variable {text rest : List Char} {i : Nat}

lemma isNameChar_of_high {c : Char} (h : 128 ≤ c.toNat) : isNameChar c = true := by
  rw [isNameChar, decide_eq_true h, Bool.or_true]

/-- The bytes of a name are those of its characters. -/
lemma isNameByte_of_mem {c : Char} {b : UInt8} (h : b ∈ String.utf8EncodeChar c) :
    isNameByte b = isNameChar c := by
  rw [isNameByte]
  rcases mem_utf8EncodeChar h with ⟨-, hsame⟩ | ⟨hc, hb⟩
  · rw [Char.toNat_inj.mp ((toNat_ofUInt8 b).trans hsame)]
  · rw [isNameChar_of_high hc, isNameChar_of_high (by rwa [toNat_ofUInt8])]

lemma takeWhile_isNameByte_utf8 (text : List Char) :
    (utf8 text).takeWhile isNameByte = utf8 (text.takeWhile isNameChar) := by
  induction text with
  | nil => rfl
  | cons c text ih =>
      rw [utf8_cons]
      by_cases hc : isNameChar c = true
      · rw [List.takeWhile_append_of_pos fun b hb => (isNameByte_of_mem hb).trans hc, ih,
          List.takeWhile_cons_of_pos hc, utf8_cons]
      · obtain ⟨b, bytes, hbytes⟩ := exists_utf8EncodeChar c
        have hb := isNameByte_of_mem (hbytes ▸ List.mem_cons_self : b ∈ String.utf8EncodeChar c)
        rw [hbytes, List.cons_append, List.takeWhile_cons_of_neg (by rwa [hb]),
          List.takeWhile_cons_of_neg hc]
        rfl

/-- **A name ends at a boundary.** -/
lemma Leaves.nameEnd? (h : Leaves text i rest) :
    Option.Rel (Leaves text) (nameEnd? (bytesOf (String.ofList text)) i) (afterName? rest) := by
  rw [Sql.nameEnd?, afterName?]
  have hquoted := h.quotedEnd?
  generalize Sql.quotedEnd? _ i = end?, afterQuote? rest = after? at hquoted
  cases hquoted with
  | some hnext => exact .some hnext
  | none =>
      have hle : i ≤ (bytesOf (String.ofList text)).size := h.size ▸ Nat.le_add_right _ _
      have hsplit := List.takeWhile_append_dropWhile (p := isNameChar) (l := rest)
      simp only [Nat.min_eq_left hle, h.drop, takeWhile_isNameByte_utf8]
      generalize rest.takeWhile isNameChar = name, rest.dropWhile isNameChar = behind at hsplit
      subst hsplit
      have hbytes : (utf8 name).length = 0 ↔ name = [] := Text.length_utf8_eq_zero
      rw [List.length_append]
      by_cases hnone : name = []
      · rw [if_neg (by rw [hbytes.mpr hnone]; exact Nat.lt_irrefl 0), if_pos (by rw [hnone]; simp)]
        exact .none
      · have hname := List.length_pos_iff.mpr hnone
        rw [if_pos (Nat.pos_of_ne_zero (mt hbytes.mp hnone)), if_neg (by omega)]
        exact .some h.append

end Names

end SqlAccess.Sql
