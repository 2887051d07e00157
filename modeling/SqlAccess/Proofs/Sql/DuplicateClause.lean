import SqlAccess.Proofs.Text.Search
import SqlAccess.Proofs.Text.Words
import SqlAccess.Sql.Classify

/-!
# Where the clause about duplicates can stand

An insert is taken for an upsert if its text holds the words `ON DUPLICATE KEY UPDATE`, wherever
they stand.  They are looked for in the squeezed text, and a place of the text where a character
stands that is none of theirs cuts the search in two (`holdsDuplicateClause_cut`): no occurrence
reaches across it.  Commas, parentheses and all kinds of quotation marks are such characters, so **a
statement holds the clause exactly if one of the pieces between them does**, and a piece holds it
whatever is in front of it or behind it.
-/

namespace SqlAccess.Sql

/-! ## The clause -/

/-- The words of the clause, as they are looked for. -/
def duplicateClause : List Char := "ON DUPLICATE KEY UPDATE".toList

lemma holdsDuplicateClause_iff {text : List Char} :
    holdsDuplicateClause text = true ↔
      duplicateClause <:+: (Text.squeezed text).map Char.toUpper :=
  Text.holdsMark_iff

/-- A character that no occurrence of the clause can hold, in any case and with any blanks. -/
def cutsClause (c : Char) : Bool :=
  !Text.isBlank c && !duplicateClause.contains c.toUpper

/-! ## Pieces of a text -/

lemma duplicateClause_infix_cons {c : Char} {text : List Char} (h : ¬['O', 'N'] <+: c :: text) :
    duplicateClause <:+: c :: text ↔ duplicateClause <:+: text := by
  rw [List.infix_cons_iff, or_iff_right]
  intro hprefix
  have hfirst : ['O', 'N'] <+: duplicateClause := by decide
  exact h (hfirst.trans hprefix)

lemma duplicateClause_infix_append {word text : List Char} (h : 'O' ∉ word) :
    duplicateClause <:+: word ++ text ↔ duplicateClause <:+: text := by
  induction word with
  | nil => rfl
  | cons c word ih =>
      rw [List.mem_cons, not_or] at h
      rw [List.cons_append, duplicateClause_infix_cons (by simp [h.1]), ih h.2]

lemma duplicateClause_infix_concat {text : List Char} :
    duplicateClause <:+: text ++ [' '] ↔ duplicateClause <:+: text := by
  rw [List.infix_concat_iff, or_iff_right]
  rw [List.suffix_concat_iff]
  rintro (hnone | ⟨word, hword, -⟩)
  · exact absurd hnone (by decide)
  · have hlast := congrArg List.getLast? hword
    rw [List.getLast?_concat] at hlast
    exact absurd hlast (by decide)

/-- **A character that is none of the clause's cuts the search for it in two.** -/
theorem holdsDuplicateClause_cut {c : Char} (hc : cutsClause c = true)
    (before behind : List Char) :
    holdsDuplicateClause (before ++ c :: behind) =
      (holdsDuplicateClause before || holdsDuplicateClause behind) := by
  simp only [cutsClause, Bool.and_eq_true, Bool.not_eq_true', List.contains_eq_mem,
    decide_eq_false_iff_not] at hc
  obtain ⟨hblank, hmem⟩ := hc
  rw [Bool.eq_iff_iff, Bool.or_eq_true, holdsDuplicateClause_iff, holdsDuplicateClause_iff,
    holdsDuplicateClause_iff]
  obtain ⟨inFront, rest, hsqueezed, hinFront, hrest⟩ :=
    Text.exists_squeezed_append hblank before behind
  rw [hsqueezed, List.map_append, List.map_cons, Text.infix_cut hmem]
  refine or_congr ?_ ?_
  · rcases hinFront with rfl | rfl
    · rfl
    · rw [List.map_append]
      exact duplicateClause_infix_concat
  · rcases hrest with rfl | rfl
    · rfl
    · rw [List.map_cons]
      exact duplicateClause_infix_cons (by simp)

lemma holdsDuplicateClause_cons {c : Char} (hc : cutsClause c = true) (text : List Char) :
    holdsDuplicateClause (c :: text) = holdsDuplicateClause text :=
  holdsDuplicateClause_cut hc [] text

lemma holdsDuplicateClause_concat {c : Char} (hc : cutsClause c = true) (text : List Char) :
    holdsDuplicateClause (text ++ [c]) = holdsDuplicateClause text :=
  (holdsDuplicateClause_cut hc text []).trans (Bool.or_false _)

lemma holdsDuplicateClause_blank {c : Char} (hc : Text.isBlank c = true) (text : List Char) :
    holdsDuplicateClause (c :: text) = holdsDuplicateClause text := by
  rw [Bool.eq_iff_iff, holdsDuplicateClause_iff, holdsDuplicateClause_iff, Text.squeezed_cons hc]

lemma holdsDuplicateClause_concat_blank {c : Char} (hc : Text.isBlank c = true)
    (text : List Char) : holdsDuplicateClause (text ++ [c]) = holdsDuplicateClause text := by
  rw [Bool.eq_iff_iff, holdsDuplicateClause_iff, holdsDuplicateClause_iff, Text.squeezed_concat hc]

/-- **What stands on one side of a blank keeps the clause that it holds.** -/
theorem holdsDuplicateClause_of_blank {c : Char} (hc : Text.isBlank c = true)
    (before behind : List Char)
    (h : holdsDuplicateClause before = true ∨ holdsDuplicateClause behind = true) :
    holdsDuplicateClause (before ++ c :: behind) = true := by
  obtain ⟨between, hsqueezed, -⟩ := Text.squeezed_append hc before behind
  rw [holdsDuplicateClause_iff] at h ⊢
  rw [holdsDuplicateClause_iff] at h
  rw [hsqueezed]
  rcases h with hbefore | hbehind
  · exact hbefore.trans (List.IsInfix.map _ ⟨[], between ++ Text.squeezed behind, by simp⟩)
  · exact hbehind.trans (List.IsInfix.map _ ⟨Text.squeezed before ++ between, [], by simp⟩)

lemma eq_of_toUpper_eq {c : Char} (h : c.toUpper = 'Y') : c = 'y' ∨ c = 'Y' := by
  unfold Char.toUpper at h
  split at h
  · left
    have hcode := congrArg Char.toNat h
    simp only [Char.toNat, UInt32.toNat_add] at hcode
    have hlt := c.val.toNat_lt
    have hcode : c.val.toNat = 121 := by
      have hshift : ('A'.val - 'a'.val).toNat = 4294967264 := by decide
      have hletter : 'Y'.val.toNat = 89 := by decide
      omega
    exact Char.ext (UInt32.toNat_inj.mp hcode)
  · exact .inr h

/-- A text that lacks one letter of the clause holds no clause. -/
lemma holdsDuplicateClause_of_forall {text : List Char}
    (h : ∀ c ∈ text, c ≠ 'y' ∧ c ≠ 'Y') : holdsDuplicateClause text = false := by
  rw [Bool.eq_false_iff, Ne, holdsDuplicateClause_iff]
  intro hclause
  have hletter : 'Y' ∈ duplicateClause := by decide
  obtain ⟨c, hc, hupper⟩ := List.mem_map.mp (hclause.subset hletter)
  rcases Text.mem_squeezed hc with hmem | rfl
  · rcases eq_of_toUpper_eq hupper with rfl | rfl
    · exact (h _ hmem).1 rfl
    · exact (h _ hmem).2 rfl
  · exact absurd hupper (by decide)

/-! ## Parts of statements -/

/-- The words in front of the table hold nothing of the clause. -/
lemma holdsDuplicateClause_insertInto (text : List Char) :
    holdsDuplicateClause ("INSERT INTO ".toList ++ text) = holdsDuplicateClause text := by
  have hwords : "INSERT INTO ".toList ++ text = "INSERT INTO".toList ++ ' ' :: text := rfl
  have hself : Text.squeezed "INSERT INTO".toList = "INSERT INT".toList ++ ['O'] := by decide
  have hupper : ("INSERT INT".toList ++ ['O']).map Char.toUpper = "INSERT INT".toList ++ ['O'] := by
    decide
  obtain ⟨between, hsqueezed, hbetween⟩ :=
    Text.squeezed_append (c := ' ') (by decide) "INSERT INTO".toList text
  rw [hwords, Bool.eq_iff_iff, holdsDuplicateClause_iff, holdsDuplicateClause_iff, hsqueezed,
    hself, List.append_assoc, List.map_append, hupper, List.append_assoc,
    duplicateClause_infix_append (by decide), List.singleton_append]
  rcases hbetween with rfl | ⟨rfl, hnone | hnone⟩
  · rw [List.singleton_append, List.map_cons, duplicateClause_infix_cons (by simp),
      duplicateClause_infix_cons (by simp)]
  · exact absurd (hself.symm.trans hnone) (by decide)
  · rw [hnone]
    decide

/-- Texts with commas between them hold the clause if one of them does. -/
lemma holdsDuplicateClause_joined (texts : List String) :
    holdsDuplicateClause (", ".intercalate texts).toList =
      texts.any fun text => holdsDuplicateClause text.toList := by
  rw [String.toList_intercalate]
  induction texts with
  | nil => rfl
  | cons text texts ih =>
      by_cases hnone : texts = []
      · simp [hnone]
      · have hlist : texts.map String.toList ≠ [] := by simpa using hnone
        rw [List.map_cons, List.intercalate_cons_of_ne_nil hlist, List.append_assoc,
          List.any_cons, ← ih]
        show holdsDuplicateClause (text.toList ++ ',' :: ' ' :: _) = _
        rw [holdsDuplicateClause_cut (by decide), holdsDuplicateClause_blank (by decide)]
        rfl

/-- **The words of the clause are found with blanks around them**, whatever is in front of them and
behind them. -/
lemma holdsDuplicateClause_of_words (before behind : String) :
    holdsDuplicateClause (before ++ " ON DUPLICATE KEY UPDATE " ++ behind).toList = true := by
  have hself : holdsDuplicateClause duplicateClause = true := by decide
  have hbehind := holdsDuplicateClause_of_blank (c := ' ') (by decide) duplicateClause
    behind.toList (.inl hself)
  rw [String.toList_append, String.toList_append, List.append_assoc]
  exact holdsDuplicateClause_of_blank (c := ' ') (by decide) before.toList _ (.inr hbehind)

end SqlAccess.Sql
