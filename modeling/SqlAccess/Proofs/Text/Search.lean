import Mathlib.Tactic.Common
import Mathlib.Data.List.Infix
import SqlAccess.Text.Ascii
import SqlAccess.Text.Blank

/-!
# Finding a mark in a text

A mark is looked for from the left.  What that comes down to is that the mark stands somewhere in
the text (`holdsMark_iff`), which is the form to reason with: it says nothing of the search, and a
part of a text holds no mark that the whole does not hold.
-/

namespace SqlAccess.Text

/-- A text starts with exactly what is dropped from it. -/
lemma dropLead?_eq_some {lead text rest : List Char} :
    dropLead? lead text = some rest ↔ text = lead ++ rest := by
  fun_induction dropLead? lead text <;> simp_all [eq_comm]

/-- Something can be dropped from a text that starts with it. -/
lemma dropLead?_isSome {lead text : List Char} :
    (dropLead? lead text).isSome = true ↔ lead <+: text := by
  rw [Option.isSome_iff_exists]
  exact exists_congr fun rest => dropLead?_eq_some.trans eq_comm

/-- Letter by letter, what is written of a word is its first letter and the others. -/
lemma written_cons {w c : Char} {word text written rest : List Char}
    (htext : c :: text = written ++ rest)
    (hlower : written.map Char.toLower = (w :: word).map Char.toLower) :
    c.toLower = w.toLower ∧
      ∃ others, text = others ++ rest ∧ others.map Char.toLower = word.map Char.toLower := by
  cases written with
  | nil => simp at hlower
  | cons d others =>
      obtain ⟨rfl, rfl⟩ := List.cons.inj htext
      obtain ⟨hc, hothers⟩ := List.cons.inj hlower
      exact ⟨hc, others, rfl, hothers⟩

/-- A text starts with a word if it starts with letters that differ from it at most in case. -/
lemma dropWord?_eq_some {word text rest : List Char} :
    dropWord? word text = some rest ↔
      ∃ written, text = written ++ rest ∧ written.map Char.toLower = word.map Char.toLower := by
  fun_induction dropWord? word text with
  | case1 text => simp [eq_comm]
  | case2 w word => simp_all [eq_comm, List.append_eq_nil_iff]
  | case3 w word c text hletter ih =>
      rw [ih]
      constructor
      · rintro ⟨written, rfl, hlower⟩
        exact ⟨c :: written, rfl, by simp [hlower, beq_iff_eq.mp hletter]⟩
      · rintro ⟨written, htext, hlower⟩
        exact (written_cons htext hlower).2
  | case4 w word c text hletter =>
      simp only [reduceCtorEq, false_iff]
      rintro ⟨written, htext, hlower⟩
      exact hletter (beq_iff_eq.mpr (written_cons htext hlower).1.symm)

/-- What is found on one side of a cut is found on one of its sides. -/
lemma infix_cut {mark before behind : List Char} {c : Char} (hc : c ∉ mark) :
    mark <:+: before ++ c :: behind ↔ mark <:+: before ∨ mark <:+: behind := by
  rw [List.infix_append_iff_ne_nil]
  constructor
  · rintro (hbefore | hbehind | ⟨inFront, rest, -, hne, rfl, -, hrest⟩)
    · exact .inl hbefore
    · rcases List.infix_cons_iff.mp hbehind with hprefix | hinfix
      · cases mark with
        | nil => exact .inl (List.nil_infix)
        | cons d mark =>
            obtain ⟨rfl, -⟩ := List.cons_prefix_cons.mp hprefix
            simp at hc
      · exact .inr hinfix
    · obtain ⟨d, rest, rfl⟩ := List.exists_cons_of_ne_nil hne
      obtain ⟨rfl, -⟩ := List.cons_prefix_cons.mp hrest
      simp at hc
  · rintro (hbefore | hbehind)
    · exact .inl hbefore
    · exact .inr (.inl (List.infix_cons hbehind))

/-- **A text holds a mark if the mark stands somewhere in it.** -/
theorem holdsMark_iff {mark text : List Char} : holdsMark mark text = true ↔ mark <:+: text := by
  unfold holdsMark
  induction text with
  | nil =>
      rw [splitAtMark?, Option.isSome_map, dropLead?_isSome, List.prefix_nil, List.infix_nil]
  | cons c text ih =>
      rw [List.infix_cons_iff, ← dropLead?_isSome, ← ih, splitAtMark?]
      split <;> simp_all

lemma splitAtMark?_eq_none {mark text : List Char} :
    splitAtMark? mark text = none ↔ ¬mark <:+: text := by
  rw [← holdsMark_iff, holdsMark, Option.not_isSome_iff_eq_none]

/-- Where a text is split at a mark, the mark stands between what is before it and what is after. -/
lemma eq_of_splitAtMark? {mark text before after : List Char}
    (h : splitAtMark? mark text = some (before, after)) : text = before ++ (mark ++ after) := by
  induction text generalizing before with
  | nil =>
      rw [splitAtMark?, Option.map_eq_some_iff] at h
      obtain ⟨rest, hrest, hsplit⟩ := h
      obtain ⟨rfl, rfl⟩ := Prod.mk.inj hsplit
      rw [List.nil_append]
      exact dropLead?_eq_some.mp hrest
  | cons c text ih =>
      rw [splitAtMark?] at h
      split at h
      · rename_i rest hrest
        obtain ⟨rfl, rfl⟩ := Prod.mk.inj (Option.some.inj h)
        rw [List.nil_append]
        exact dropLead?_eq_some.mp hrest
      · obtain ⟨⟨inFront, rest⟩, hrest, hsplit⟩ := Option.map_eq_some_iff.mp h
        obtain ⟨rfl, rfl⟩ := Prod.mk.inj hsplit
        rw [ih hrest, List.cons_append]

/-- Where a text is split at a mark, the mark does not stand any earlier. -/
lemma not_infix_of_splitAtMark? {mark text before after : List Char} (hmark : mark ≠ [])
    (h : splitAtMark? mark text = some (before, after)) : ¬mark <:+: before := by
  induction text generalizing before with
  | nil =>
      obtain ⟨rest, -, hsplit⟩ := Option.map_eq_some_iff.mp h
      obtain ⟨rfl, -⟩ := Prod.mk.inj hsplit
      rwa [List.infix_nil]
  | cons c text ih =>
      rw [splitAtMark?] at h
      split at h
      · obtain ⟨rfl, -⟩ := Prod.mk.inj (Option.some.inj h)
        rwa [List.infix_nil]
      · rename_i hdrop
        obtain ⟨⟨inFront, rest⟩, hrest, hsplit⟩ := Option.map_eq_some_iff.mp h
        obtain ⟨rfl, rfl⟩ := Prod.mk.inj hsplit
        rw [List.infix_cons_iff, not_or]
        refine ⟨fun hbegins => ?_, ih hrest⟩
        have htext : c :: inFront <+: c :: text :=
          List.cons_prefix_cons.mpr ⟨rfl, _, (eq_of_splitAtMark? hrest).symm⟩
        simpa [hdrop] using dropLead?_isSome.mpr (hbegins.trans htext)

/-- A mark without the separator, found in a joined text, is found in one of the parts. -/
lemma infix_of_infix_intercalate {mark : List Char} {c : Char} (hmark : mark ≠ []) (hc : c ∉ mark)
    {texts : List (List Char)} (h : mark <:+: [c].intercalate texts) :
    ∃ text ∈ texts, mark <:+: text := by
  induction texts with
  | nil => exact absurd (List.infix_nil.mp h) hmark
  | cons text texts ih =>
      by_cases hnone : texts = []
      · rw [hnone, List.intercalate_singleton] at h
        exact ⟨text, List.mem_cons_self, h⟩
      · rw [List.intercalate_cons_of_ne_nil hnone, List.append_assoc, List.singleton_append,
          infix_cut hc] at h
        rcases h with htext | hothers
        · exact ⟨text, List.mem_cons_self, htext⟩
        · obtain ⟨other, hother, hinfix⟩ := ih hothers
          exact ⟨other, List.mem_cons_of_mem text hother, hinfix⟩

/-! ## Blanks at the ends -/

lemma dropBlanks_eq_self {text : List Char} (h : text.head?.any isBlank = false) :
    dropBlanks text = text := by
  cases text with
  | nil => rfl
  | cons c text => exact List.dropWhile_cons_of_neg (by simpa using h)

lemma trimList_eq_self_of_ends {text : List Char} (hfirst : text.head?.any isBlank = false)
    (hlast : text.getLast?.any isBlank = false) : trimList text = text := by
  rw [trimList, dropBlanks_eq_self hfirst,
    dropBlanks_eq_self (by rwa [List.head?_reverse]), List.reverse_reverse]

/-- A text without blanks has none at its ends. -/
lemma trimList_eq_self {text : List Char} (h : ∀ c ∈ text, isBlank c = false) :
    trimList text = text := by
  have hend {end? : Option Char} (hmem : ∀ c ∈ end?, c ∈ text) : end?.any isBlank = false := by
    cases end? with
    | none => rfl
    | some c => exact h c (hmem c rfl)
  exact trimList_eq_self_of_ends (hend fun _ => List.mem_of_mem_head?)
    (hend fun _ => List.mem_of_mem_getLast?)

/-- No blank is left at the end. -/
lemma getLast?_trimList (text : List Char) : (trimList text).getLast?.any isBlank = false := by
  rw [trimList, List.getLast?_reverse, dropBlanks]
  cases hhead : (List.dropWhile isBlank (dropBlanks text).reverse).head? with
  | none => rfl
  | some c =>
      have hnot := List.head?_dropWhile_not isBlank (dropBlanks text).reverse
      rw [hhead] at hnot
      exact hnot

/-- Between two characters that are no blanks nothing is left out. -/
lemma trimList_append {first last : Char} (hfirst : isBlank first = false)
    (hlast : isBlank last = false) (inside behind : List Char) :
    trimList (first :: (inside ++ last :: behind)) =
      first :: (inside ++ last :: (dropBlanks behind.reverse).reverse) := by
  have hreverse : (first :: (inside ++ last :: behind)).reverse =
      behind.reverse ++ last :: (first :: inside).reverse := by simp
  have hdropped : dropBlanks (behind.reverse ++ last :: (first :: inside).reverse) =
      dropBlanks behind.reverse ++ last :: (first :: inside).reverse := by
    rw [dropBlanks, List.dropWhile_append]
    split_ifs with hnone
    · rw [List.dropWhile_cons_of_neg (by simp [hlast]), dropBlanks, List.isEmpty_iff.mp hnone,
        List.nil_append]
    · rfl
  have hstart : dropBlanks (first :: (inside ++ last :: behind)) =
      first :: (inside ++ last :: behind) := dropBlanks_eq_self (by simpa using hfirst)
  rw [trimList, hstart, hreverse, hdropped]
  simp

/-- What is left of a text without the blanks at its ends is a part of it. -/
lemma trimList_isInfix (text : List Char) : trimList text <:+: text := by
  unfold trimList dropBlanks
  have hstart : List.dropWhile isBlank text <:+: text := (List.dropWhile_suffix _).isInfix
  have hend := (List.dropWhile_suffix (l := (text.dropWhile isBlank).reverse) isBlank).isInfix
  exact (List.reverse_infix.mp (by simpa using hend)).trans hstart

end SqlAccess.Text
