import SqlAccess.Proofs.Sql.Encoded
import SqlAccess.Proofs.Sql.Sealed
import SqlAccess.Proofs.Sql.Tokens
import SqlAccess.Sql.Classify

/-!
# Gaps between words, and groups in parentheses

What a named query may hold is said here without the functions that skip it.  The comments and
quoted pieces are those of `IsComment` and `IsQuoted`, by their bytes; whether a piece ends where it
does may depend on what follows, so everything is told as a relation between a text and what is left
behind the piece at its head.

* `Begins` — a text begins with a comment or with a quoted piece.
* `Gap` — what may stand between two words: blanks and comments.
* `Balanced` — what may stand between two parentheses.  Comments and quoted pieces count as wholes,
  so the parentheses in them do not count; all others are closed again.

**The functions go over what the relations describe**: `Gap.dropSilence`, and
`Balanced.afterGroup`, where one more parenthesis that is open is one more to be closed.
-/

namespace SqlAccess.Sql

/-! ## Comments and quoted pieces -/

/-- Whether a text begins with a piece of a kind, and `rest` is left behind it. -/
def Begins (Piece : List UInt8 → List UInt8 → Prop) (text rest : List Char) : Prop :=
  ∃ piece, text = piece ++ rest ∧ Piece (utf8 piece) (utf8 rest)

lemma utf8_injective : Function.Injective utf8 := by
  intro text more h
  have hbytes : bytesOf (String.ofList text) = bytesOf (String.ofList more) := by
    rw [← Array.toList_inj, toList_bytesOf, toList_bytesOf, String.toList_ofList,
      String.toList_ofList, h]
  exact String.ofList_injective (String.toByteArray_inj.mp (ByteArray.ext hbytes))

lemma afterLine_suffix (text : List Char) : afterLine text <:+ text := by
  induction text with
  | nil => exact List.suffix_refl _
  | cons c text ih =>
      rw [afterLine]
      split_ifs
      · exact List.suffix_cons c text
      · exact ih.trans (List.suffix_cons c text)

lemma afterBlock_suffix (text : List Char) : afterBlock text <:+ text := by
  fun_induction afterBlock text with
  | case1 => exact List.suffix_refl _
  | case2 => exact List.nil_suffix
  | case3 c d text => exact (List.suffix_cons d text).trans (List.suffix_cons c _)
  | case4 c d text _ ih => exact ih.trans (List.suffix_cons c _)

lemma afterComment?_suffix {text rest : List Char} (h : afterComment? text = some rest) :
    rest <:+ text := by
  unfold afterComment? at h
  split at h
  · cases h
    exact (afterLine_suffix _).trans (List.suffix_cons _ _)
  · cases h
    exact List.nil_suffix
  · split_ifs at h
    cases h
    exact (afterLine_suffix _).trans ((List.suffix_cons _ _).trans (List.suffix_cons _ _))
  · cases h
    exact (afterBlock_suffix _).trans ((List.suffix_cons _ _).trans (List.suffix_cons _ _))
  · cases h

lemma afterQuoted_suffix (quote : Char) (text : List Char) :
    afterQuoted quote text <:+ text := by
  fun_induction afterQuoted quote text with
  | case1 => exact List.suffix_refl _
  | case2 => exact List.nil_suffix
  | case3 c d text _ ih => exact ih.trans ((List.suffix_cons d text).trans (List.suffix_cons c _))
  | case4 text _ ih => exact ih.trans ((List.suffix_cons _ text).trans (List.suffix_cons _ _))
  | case5 d text => exact List.suffix_cons _ _
  | case6 c d text _ _ ih => exact ih.trans (List.suffix_cons c _)

lemma afterQuote?_suffix {text rest : List Char} (h : afterQuote? text = some rest) :
    rest <:+ text := by
  cases text with
  | nil => cases h
  | cons c text =>
      rw [afterQuote?] at h
      split_ifs at h
      cases h
      exact (afterQuoted_suffix c text).trans (List.suffix_cons c text)

/-- A text begins with a piece of a kind where such pieces are skipped, if the walk over bytes skips
what the pieces are and the skipping of characters agrees with it. -/
lemma begins_iff {Piece : List UInt8 → List UInt8 → Prop}
    {skip? : List UInt8 → Option (List UInt8)} {after? : List Char → Option (List Char)}
    (hutf8 : ∀ text, skip? (utf8 text) = (after? text).map utf8)
    (hskip : ∀ {piece rest}, Piece piece rest → skip? (piece ++ rest) = some rest)
    (hpiece : ∀ {bytes rest}, skip? bytes = some rest →
      ∃ piece, bytes = piece ++ rest ∧ Piece piece rest)
    (hsuffix : ∀ {text rest}, after? text = some rest → rest <:+ text) {text rest : List Char} :
    Begins Piece text rest ↔ after? text = some rest := by
  constructor
  · rintro ⟨piece, rfl, h⟩
    have hbytes := hutf8 (piece ++ rest)
    rw [utf8_append, hskip h] at hbytes
    obtain ⟨more, hmore, hsame⟩ := Option.map_eq_some_iff.mp hbytes.symm
    rw [hmore, utf8_injective hsame]
  · intro h
    obtain ⟨piece, rfl⟩ := hsuffix h
    have hbytes := hutf8 (piece ++ rest)
    rw [h, Option.map_some] at hbytes
    obtain ⟨bytes, hsame, hbegins⟩ := hpiece hbytes
    rw [utf8_append] at hsame
    exact ⟨piece, rfl, List.append_cancel_right hsame ▸ hbegins⟩

/-- **The comments of a text are those that are skipped.** -/
theorem begins_isComment_iff {text rest : List Char} :
    Begins IsComment text rest ↔ afterComment? text = some rest :=
  begins_iff commentRest?_utf8 IsComment.commentRest? exists_isComment afterComment?_suffix

/-- **The quoted pieces of a text are those that are skipped.** -/
theorem begins_isQuoted_iff {text rest : List Char} :
    Begins IsQuoted text rest ↔ afterQuote? text = some rest :=
  begins_iff quotedRest?_utf8 IsQuoted.quotedRest? exists_isQuoted afterQuote?_suffix

lemma afterComment?_eq_none_of_forall {text : List Char}
    (h : ∀ rest, ¬Begins IsComment text rest) : afterComment? text = none := by
  by_contra hsome
  obtain ⟨rest, hrest⟩ := Option.ne_none_iff_exists'.mp hsome
  exact h rest (begins_isComment_iff.mpr hrest)

/-- A quoted piece begins with its mark. -/
lemma Begins.exists_isQuote {text rest : List Char} (h : Begins IsQuoted text rest) :
    ∃ quote more, text = quote :: more ∧ isQuote quote = true := by
  have hquoted := begins_isQuoted_iff.mp h
  cases text with
  | nil => cases hquoted
  | cons quote more =>
      rw [afterQuote?] at hquoted
      split_ifs at hquoted with hquote
      exact ⟨quote, more, rfl, hquote⟩

lemma Begins.length_le {Piece : List UInt8 → List UInt8 → Prop} {text rest : List Char}
    (h : Begins Piece text rest) : rest.length ≤ text.length := by
  obtain ⟨piece, rfl, -⟩ := h
  rw [List.length_append]
  exact Nat.le_add_left _ _

/-! ## Gaps -/

/-- What may stand between two words of a statement: blanks and comments. -/
inductive Gap : List Char → List Char → Prop where
  | nil (rest : List Char) : Gap rest rest
  | blank {c : Char} (hc : Text.isAsciiBlank c = true) {text rest : List Char} (h : Gap text rest) :
      Gap (c :: text) rest
  | comment {text more rest : List Char} (hcomment : Begins IsComment text more)
      (h : Gap more rest) : Gap text rest

/-- What holds of none of the blanks holds of no blank. -/
lemma isAsciiBlank_of_all {p : Char → Bool}
    (hp : [' ', '\t', '\n', '\x0c', '\r'].all (fun d => !p d) = true) {c : Char}
    (h : p c = true) : Text.isAsciiBlank c = false := by
  rw [Bool.eq_false_iff]
  intro hblank
  have hmem : c ∈ [' ', '\t', '\n', '\x0c', '\r'] := by
    simpa [Text.isAsciiBlank, or_assoc] using hblank
  simpa [h] using List.all_eq_true.mp hp c hmem

/-- A blank begins no comment. -/
lemma afterComment?_of_isAsciiBlank {c : Char} (hc : Text.isAsciiBlank c = true)
    (text : List Char) : afterComment? (c :: text) = none := by
  apply afterComment?_eq_none <;> rintro rfl <;> exact absurd hc (by decide)

lemma dropSilence_of_afterComment? {text rest : List Char} (h : afterComment? text = some rest) :
    dropSilence text = dropSilence rest := by
  cases text with
  | nil => cases h
  | cons c text =>
      rw [dropSilence]
      split <;> simp_all

lemma dropSilence_of_afterComment?_eq_none {c : Char} {text : List Char}
    (h : afterComment? (c :: text) = none) :
    dropSilence (c :: text) = if Text.isAsciiBlank c then dropSilence text else c :: text := by
  rw [dropSilence]
  split <;> simp_all

/-- What is neither a comment nor a blank is not silent. -/
lemma dropSilence_eq_self {c : Char} {text : List Char}
    (hcomment : afterComment? (c :: text) = none) (hblank : Text.isAsciiBlank c = false) :
    dropSilence (c :: text) = c :: text := by
  rw [dropSilence_of_afterComment?_eq_none hcomment, hblank, if_neg Bool.false_ne_true]

/-- **A gap is silent.** -/
theorem Gap.dropSilence {text rest : List Char} (h : Gap text rest) :
    dropSilence text = dropSilence rest := by
  induction h with
  | nil => rfl
  | blank hc _ ih =>
      rw [dropSilence_of_afterComment?_eq_none (afterComment?_of_isAsciiBlank hc _), if_pos hc, ih]
  | comment hcomment _ ih =>
      rw [dropSilence_of_afterComment? (begins_isComment_iff.mp hcomment), ih]

lemma Gap.length_le {text rest : List Char} (h : Gap text rest) : rest.length ≤ text.length := by
  induction h with
  | nil => exact le_rfl
  | blank _ _ ih => exact Nat.le_succ_of_le ih
  | comment hcomment _ ih => exact ih.trans hcomment.length_le

/-! ## Groups -/

/-- What may stand between two parentheses: in what is neither a comment nor a quoted piece, every
parenthesis that is opened is closed, and no other is. -/
inductive Balanced : List Char → List Char → Prop where
  | nil (rest : List Char) : Balanced rest rest
  | comment {text more rest : List Char} (hcomment : Begins IsComment text more)
      (h : Balanced more rest) : Balanced text rest
  | quoted {text more rest : List Char} (hquoted : Begins IsQuoted text more)
      (h : Balanced more rest) : Balanced text rest
  | group {text more rest : List Char} (hinside : Balanced text (')' :: more))
      (h : Balanced more rest) : Balanced ('(' :: text) rest
  | other {c : Char} {text rest : List Char} (hopen : c ≠ '(') (hclose : c ≠ ')')
      (hquote : isQuote c = false) (hcomment : ∀ more, ¬Begins IsComment (c :: text) more)
      (h : Balanced text rest) : Balanced (c :: text) rest

/-- A group in parentheses. -/
inductive Parenthesised : List Char → List Char → Prop where
  | intro {text rest : List Char} (h : Balanced text (')' :: rest)) :
      Parenthesised ('(' :: text) rest

/-- A word without marks is balanced. -/
lemma Balanced.calm_append {word more rest : List Char}
    (hword : word.all (fun c => isCalm c && c != '(' && c != ')') = true)
    (h : Balanced more rest) : Balanced (word ++ more) rest := by
  induction word with
  | nil => exact h
  | cons c word ih =>
      simp only [List.all_cons, Bool.and_eq_true, bne_iff_ne] at hword
      obtain ⟨⟨⟨hcalm, hopen⟩, hclose⟩, hword⟩ := hword
      refine .other hopen hclose (isCalm_iff.mp hcalm).1 (fun behind hbehind => ?_) (ih hword)
      have hnone := afterComment?_calm hcalm (word ++ more)
      exact absurd ((begins_isComment_iff.mp hbehind).symm.trans hnone) (by simp)

lemma afterGroup_of_afterComment? {text rest : List Char} (h : afterComment? text = some rest)
    (depth : Nat) : afterGroup depth text = afterGroup depth rest := by
  cases text with
  | nil => cases h
  | cons c text =>
      rw [afterGroup]
      split <;> simp_all

lemma afterGroup_of_afterQuote? {text rest : List Char} (h : afterQuote? text = some rest)
    (depth : Nat) : afterGroup depth text = afterGroup depth rest := by
  cases text with
  | nil => cases h
  | cons quote text =>
      have hquote : isQuote quote = true := by
        rw [afterQuote?] at h
        split_ifs at h with hquote
        exact hquote
      have hcomment := afterComment?_of_isQuote hquote text
      rw [afterGroup]
      split
      · simp_all
      · split <;> simp_all

lemma afterGroup_of_none {c : Char} {text : List Char} (hcomment : afterComment? (c :: text) = none)
    (hquote : isQuote c = false) (depth : Nat) :
    afterGroup depth (c :: text) =
      if c = '(' then afterGroup (depth + 1) text
      else if c = ')' then if depth ≤ 1 then text else afterGroup (depth - 1) text
      else afterGroup depth text := by
  have hquoted : afterQuote? (c :: text) = none := by simp [afterQuote?, hquote]
  rw [afterGroup]
  split
  · simp_all
  · split <;> simp_all

lemma afterGroup_open (depth : Nat) (text : List Char) :
    afterGroup depth ('(' :: text) = afterGroup (depth + 1) text := by
  rw [afterGroup_of_none (afterComment?_calm (by decide) text) (by decide), if_pos rfl]

lemma afterGroup_close (depth : Nat) (text : List Char) :
    afterGroup depth (')' :: text) = if depth ≤ 1 then text else afterGroup (depth - 1) text := by
  rw [afterGroup_of_none (afterComment?_calm (by decide) text) (by decide), if_neg (by decide),
    if_pos rfl]

/-- **Balanced parentheses leave as many open as before**, and a group is not over in them. -/
theorem Balanced.afterGroup {text rest : List Char} (h : Balanced text rest) {depth : Nat}
    (hdepth : 0 < depth) : afterGroup depth text = afterGroup depth rest := by
  induction h generalizing depth with
  | nil => rfl
  | comment hcomment _ ih =>
      rw [afterGroup_of_afterComment? (begins_isComment_iff.mp hcomment), ih hdepth]
  | quoted hquoted _ ih =>
      rw [afterGroup_of_afterQuote? (begins_isQuoted_iff.mp hquoted), ih hdepth]
  | group _ _ ihinside ih =>
      rw [afterGroup_open, ihinside (Nat.succ_pos depth), afterGroup_close, if_neg (by omega),
        Nat.succ_sub_one, ih hdepth]
  | other hopen hclose hquote hcomment _ ih =>
      rw [afterGroup_of_none (afterComment?_eq_none_of_forall hcomment) hquote, if_neg hopen,
        if_neg hclose, ih hdepth]

lemma Balanced.length_le {text rest : List Char} (h : Balanced text rest) :
    rest.length ≤ text.length := by
  induction h with
  | nil => exact le_rfl
  | comment hcomment _ ih => exact ih.trans hcomment.length_le
  | quoted hquoted _ ih => exact ih.trans hquoted.length_le
  | group _ _ ihinside ih =>
      rw [List.length_cons] at ihinside ⊢
      omega
  | other _ _ _ _ _ ih => exact Nat.le_succ_of_le ih

lemma Parenthesised.dropSilence {text rest : List Char} (h : Parenthesised text rest) :
    dropSilence text = text := by
  obtain ⟨-⟩ := h
  exact dropSilence_eq_self (afterComment?_calm (by decide) _) (by decide)

/-- **A group is skipped as a whole**, and the silence behind it too. -/
theorem Parenthesised.afterParens? {text rest : List Char} (h : Parenthesised text rest) :
    afterParens? text = some (Sql.dropSilence rest) := by
  obtain ⟨h⟩ := h
  rw [Sql.afterParens?, h.afterGroup Nat.one_pos, afterGroup_close, if_pos le_rfl]

lemma Parenthesised.length_lt {text rest : List Char} (h : Parenthesised text rest) :
    rest.length < text.length := by
  obtain ⟨h⟩ := h
  have hlength := h.length_le
  rw [List.length_cons] at hlength ⊢
  omega

end SqlAccess.Sql
