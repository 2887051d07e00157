import Mathlib.Data.List.Infix
import Mathlib.Tactic.Common
import SqlAccess.Proofs.Text.SnakeCase
import SqlAccess.Text.Blank

/-!
# Texts with single spaces

A text is squeezed if every run of blanks in it is made one space and the blanks at its ends are
left out; that is what is left of a text if only its words count.  Squeezing is nearly local.  **A
blank cuts the words of a text in two** (`blankWords_append`), and in front of and behind any other
character a text is squeezed as it is by itself, but for a space where blanks touch the character
(`exists_squeezed_append`).
-/

namespace SqlAccess.Text

/-! ## Words -/

lemma blankWordsFrom_append {c : Char} (hc : isBlank c = true) (word before behind : List Char) :
    blankWordsFrom word (before ++ c :: behind) =
      blankWordsFrom word before ++ blankWords behind := by
  induction before generalizing word with
  | nil =>
      rw [List.nil_append, blankWordsFrom.eq_2, if_pos hc, blankWordsFrom]
      split_ifs <;> rfl
  | cons d before ih =>
      rw [List.cons_append, blankWordsFrom, blankWordsFrom]
      split_ifs
      · exact ih []
      · rw [ih [], List.cons_append]
      · exact ih (word ++ [d])

/-- **The words of a text are those in front of a blank and those behind it.** -/
theorem blankWords_append {c : Char} (hc : isBlank c = true) (before behind : List Char) :
    blankWords (before ++ c :: behind) = blankWords before ++ blankWords behind :=
  blankWordsFrom_append hc [] before behind

lemma mem_blankWordsFrom {word text w : List Char} {c : Char} (hw : w ∈ blankWordsFrom word text)
    (hc : c ∈ w) : c ∈ word ∨ c ∈ text := by
  fun_induction blankWordsFrom word text <;> grind

/-! ## Squeezed texts -/

/-- The words of a text with single spaces between them, `word` being the one that is being
read. -/
def squeezedFrom (word text : List Char) : List Char :=
  [' '].intercalate (blankWordsFrom word text)

/-- The words of a text with single spaces between them. -/
def squeezed (text : List Char) : List Char :=
  squeezedFrom [] text

lemma intercalate_append (separator : List Char) (texts others : List (List Char)) :
    ∃ between, separator.intercalate (texts ++ others) =
        separator.intercalate texts ++ between ++ separator.intercalate others ∧
      (between = separator ∨ between = [] ∧ (texts = [] ∨ others = [])) := by
  by_cases hothers : others = []
  · exact ⟨[], by simp [hothers], .inr ⟨rfl, .inr hothers⟩⟩
  induction texts with
  | nil => exact ⟨[], by simp, .inr ⟨rfl, .inl rfl⟩⟩
  | cons text texts ih =>
      refine ⟨separator, ?_, .inl rfl⟩
      by_cases htexts : texts = []
      · rw [htexts, List.singleton_append, List.intercalate_cons_of_ne_nil hothers,
          List.intercalate_singleton]
      · obtain ⟨between, hjoined, hbetween⟩ := ih
        obtain rfl : between = separator := by simpa [htexts, hothers] using hbetween
        rw [List.cons_append, List.intercalate_cons_of_ne_nil (by simp [htexts]), hjoined,
          List.intercalate_cons_of_ne_nil htexts]
        simp only [List.append_assoc]

/-- **What stands on the two sides of a blank is squeezed by itself**, and a space is put between
the two if there are words on both sides. -/
theorem squeezed_append {c : Char} (hc : isBlank c = true) (before behind : List Char) :
    ∃ between, squeezed (before ++ c :: behind) =
        squeezed before ++ between ++ squeezed behind ∧
      (between = [' '] ∨ between = [] ∧ (squeezed before = [] ∨ squeezed behind = [])) := by
  obtain ⟨between, hjoined, hbetween⟩ :=
    intercalate_append [' '] (blankWords before) (blankWords behind)
  rw [← blankWords_append hc] at hjoined
  refine ⟨between, hjoined, hbetween.imp_right (.imp_right ?_)⟩
  exact Or.imp (congrArg [' '].intercalate) (congrArg [' '].intercalate)

lemma mem_squeezed {text : List Char} {c : Char} (hc : c ∈ squeezed text) :
    c ∈ text ∨ c = ' ' := by
  rcases mem_intercalate hc with hspace | ⟨word, hword, hmem⟩
  · exact .inr (List.mem_singleton.mp hspace)
  · exact .inl ((mem_blankWordsFrom hword hmem).resolve_left (by simp))

lemma squeezed_cons {c : Char} (hc : isBlank c = true) (text : List Char) :
    squeezed (c :: text) = squeezed text :=
  congrArg [' '].intercalate (blankWords_append hc [] text)

lemma squeezed_concat {c : Char} (hc : isBlank c = true) (text : List Char) :
    squeezed (text ++ [c]) = squeezed text := by
  have hwords := blankWords_append hc text []
  rw [show blankWords [] = [] from rfl, List.append_nil] at hwords
  exact congrArg [' '].intercalate hwords

lemma squeezedFrom_blank {c : Char} (hc : isBlank c = true) {word : List Char} (hword : word ≠ [])
    (text : List Char) :
    squeezedFrom word (c :: text) =
      if blankWords text = [] then word else word ++ ' ' :: squeezed text := by
  have hempty : word.isEmpty = false := by simpa using hword
  have hwords : blankWordsFrom word (c :: text) = word :: blankWords text := by
    rw [blankWordsFrom, if_pos hc, hempty, if_neg (by simp), blankWords]
  rw [squeezedFrom, hwords]
  split_ifs with hrest
  · rw [hrest, List.intercalate_singleton]
  · rw [List.intercalate_cons_of_ne_nil hrest, List.append_assoc]
    rfl

lemma squeezedFrom_cons {c : Char} (hc : isBlank c = false) (word text : List Char) :
    squeezedFrom word (c :: text) = squeezedFrom (word ++ [c]) text := by
  rw [squeezedFrom, blankWordsFrom, if_neg (by simp [hc]), squeezedFrom]

/-- What stands behind a word is squeezed as it is by itself, but for a space between the two. -/
lemma exists_squeezedFrom (text : List Char) :
    ∃ behind, (behind = squeezed text ∨ behind = ' ' :: squeezed text) ∧
      ∀ word ≠ [], squeezedFrom word text = word ++ behind := by
  induction text with
  | nil =>
      refine ⟨[], .inl rfl, fun word hword => ?_⟩
      simp [squeezedFrom, blankWordsFrom, hword]
  | cons c text ih =>
      cases hc : isBlank c with
      | true =>
          rw [squeezed_cons hc]
          by_cases hwords : blankWords text = []
          · refine ⟨[], .inl ?_, fun word hword => ?_⟩
            · exact (congrArg [' '].intercalate hwords).symm
            · rw [squeezedFrom_blank hc hword, if_pos hwords, List.append_nil]
          · refine ⟨_, .inr rfl, fun word hword => ?_⟩
            rw [squeezedFrom_blank hc hword, if_neg hwords]
      | false =>
          obtain ⟨behind, -, hbehind⟩ := ih
          have hnext : ∀ word, squeezedFrom word (c :: text) = word ++ c :: behind := fun word => by
            rw [squeezedFrom_cons hc, hbehind _ (by simp), List.append_assoc, List.singleton_append]
          exact ⟨c :: behind, .inl (hnext []).symm, fun word _ => hnext word⟩

/-- What stands in front of a character that is no blank is squeezed as it is by itself, but for a
space between the two. -/
lemma exists_squeezedFrom_append {c : Char} (hc : isBlank c = false) {text behind : List Char}
    (hbehind : ∀ word ≠ [], squeezedFrom word text = word ++ behind) (word inFront : List Char) :
    ∃ before, squeezedFrom word (inFront ++ c :: text) = before ++ c :: behind ∧
      (before = squeezedFrom word inFront ∨
        squeezedFrom word inFront ≠ [] ∧ before = squeezedFrom word inFront ++ [' ']) := by
  induction inFront generalizing word with
  | nil =>
      refine ⟨word, ?_, .inl ?_⟩
      · rw [List.nil_append, squeezedFrom_cons hc, hbehind _ (by simp), List.append_assoc,
          List.singleton_append]
      · cases word <;> simp [squeezedFrom, blankWordsFrom]
  | cons d inFront ih =>
      rw [List.cons_append]
      cases hd : isBlank d with
      | false =>
          rw [squeezedFrom_cons hd, squeezedFrom_cons hd]
          exact ih (word ++ [d])
      | true =>
          obtain ⟨before, hbefore, hcases⟩ := ih []
          by_cases hword : word = []
          · subst hword
            rw [← squeezed, ← squeezed, squeezed_cons hd, squeezed_cons hd]
            exact ⟨before, hbefore, hcases⟩
          · have hwords : blankWords (inFront ++ c :: text) ≠ [] := by
              intro hnone
              have hsqueezed : squeezedFrom [] (inFront ++ c :: text) = [] :=
                congrArg [' '].intercalate hnone
              simp [hbefore] at hsqueezed
            rw [squeezedFrom_blank hd hword, if_neg hwords, squeezedFrom_blank hd hword, squeezed,
              hbefore]
            refine ⟨word ++ ' ' :: before, by simp, ?_⟩
            split_ifs with hnone
            · have hsqueezed : squeezedFrom [] inFront = [] := congrArg [' '].intercalate hnone
              obtain rfl : before = [] := by simpa [hsqueezed] using hcases
              exact .inr ⟨hword, rfl⟩
            · rcases hcases with rfl | ⟨-, rfl⟩
              · exact .inl rfl
              · exact .inr ⟨by simp, by simp [squeezed]⟩

/-- **In front of a character that is no blank, and behind it, a text is squeezed as it is by
itself**, but for a space at the character. -/
theorem exists_squeezed_append {c : Char} (hc : isBlank c = false) (inFront text : List Char) :
    ∃ before behind, squeezed (inFront ++ c :: text) = before ++ c :: behind ∧
      (before = squeezed inFront ∨ before = squeezed inFront ++ [' ']) ∧
      (behind = squeezed text ∨ behind = ' ' :: squeezed text) := by
  obtain ⟨behind, hcases, hbehind⟩ := exists_squeezedFrom text
  obtain ⟨before, hsqueezed, hbefore⟩ := exists_squeezedFrom_append hc hbehind [] inFront
  exact ⟨before, behind, hsqueezed, hbefore.imp_right And.right, hcases⟩

end SqlAccess.Text
