import Mathlib.Tactic.Common
import SqlAccess.Text.SnakeCase

/-!
# What a name in snake case is made of

Snake case takes a name apart twice, changes the case of its letters and joins what it has with
underscores.  None of the steps makes up a character: whatever stands in the result is an underscore
or the lower case of a letter or number of the name (`mem_snakeCase`), a final sigma counting as
the lower case of a sigma.
-/

namespace SqlAccess.Text

/-! ## ASCII -/

/-- What does not stand behind an ASCII character is ASCII. -/
lemma ascii_of_le {c last : Char} (hc : c.val ≤ last.val) (hlast : last.toNat < 128) :
    c.toNat < 128 :=
  Nat.lt_of_le_of_lt (UInt32.le_iff_toNat_le.mp hc) hlast

/-- What holds of all ASCII characters holds of a character below 128. -/
lemma ascii_forall {p : Char → Bool} (hp : ∀ n : Fin 128, p (Char.ofNat n) = true) {c : Char}
    (hc : c.toNat < 128) : p c = true := by
  simpa [Char.ofNat_toNat] using hp ⟨c.toNat, hc⟩

lemma toNat_lt_of_isAlpha {c : Char} (h : c.isAlpha = true) : c.toNat < 128 := by
  rcases Bool.or_eq_true_iff.mp h with hupper | hlower
  · exact ascii_of_le (of_decide_eq_true hupper).2 (by decide)
  · exact ascii_of_le (of_decide_eq_true (Bool.and_eq_true_iff.mp hlower).2) (by decide)

/-- What is a letter in lower case is a letter. -/
lemma isAlpha_of_toLower {c : Char} (h : c.toLower.isAlpha = true) : c.isAlpha = true := by
  unfold Char.toLower at h
  split_ifs at h with hupper
  · exact Bool.or_eq_true_iff.mpr (.inl (decide_eq_true hupper))
  · exact h

/-! ## Letters and words -/

/-- The characters of the pieces are letters and numbers of the text, or were read before it. -/
lemma mem_alphanumericPiecesFrom {piece word text : List Char} {c : Char}
    (hword : word ∈ alphanumericPiecesFrom piece text) (hc : c ∈ word) :
    c ∈ piece ∨ c ∈ text ∧ isAlphanumeric c = true := by
  induction text generalizing piece with
  | nil =>
      rw [alphanumericPiecesFrom] at hword
      split_ifs at hword
      · simp at hword
      · obtain rfl := List.mem_singleton.mp hword
        exact .inl hc
  | cons d text ih =>
      have hlater {p : List Char} (h : word ∈ alphanumericPiecesFrom p text) (hp : c ∉ p) :
          c ∈ d :: text ∧ isAlphanumeric c = true :=
        have htext := (ih h).resolve_left hp
        ⟨List.mem_cons_of_mem d htext.1, htext.2⟩
      rw [alphanumericPiecesFrom] at hword
      split_ifs at hword with hd hpiece
      · by_cases hnew : c ∈ piece ++ [d]
        · rcases List.mem_append.mp hnew with hold | hlast
          · exact .inl hold
          · obtain rfl := List.mem_singleton.mp hlast
            exact .inr ⟨List.mem_cons_self, hd⟩
        · exact .inr (hlater hword hnew)
      · exact .inr (hlater hword List.not_mem_nil)
      · rcases List.mem_cons.mp hword with rfl | hword
        · exact .inl hc
        · exact .inr (hlater hword List.not_mem_nil)

/-- The characters of the words are those of the piece, or were read before it. -/
lemma mem_caseWordsFrom {word text : List Char} {case : WordCase} {w : List Char} {c : Char}
    (hw : w ∈ caseWordsFrom word case text) (hc : c ∈ w) : c ∈ word ∨ c ∈ text := by
  fun_induction caseWordsFrom word case text <;> grind

/-- Lower case is taken letter by letter, but for a sigma at the end. -/
lemma mem_lowerWord {word : List Char} {c : Char} (hc : c ∈ lowerWord word) :
    c = 'ς' ∨ ∃ d ∈ word, c ∈ lowerOf d := by
  fun_induction lowerWord word <;> grind

/-- In ASCII, lower case is taken letter by letter. -/
lemma lowerWord_of_ascii {word : List Char} (h : ∀ c ∈ word, c.toNat < 128) :
    lowerWord word = word.map Char.toLower := by
  fun_induction lowerWord word with
  | case1 => rfl
  | case2 => exact absurd (h 'Σ' (by simp)) (by decide)
  | case3 c _ => rw [lowerOf, if_pos (h c (by simp)), List.map_singleton]
  | case4 c word _ ih =>
      obtain ⟨hc, hword⟩ := List.forall_mem_cons.mp h
      rw [ih hword, lowerOf, if_pos hc, List.singleton_append, List.map_cons]

/-- The separator and the characters of the parts are all that a joined text holds. -/
lemma mem_intercalate {separator : List Char} {texts : List (List Char)} {c : Char}
    (hc : c ∈ separator.intercalate texts) : c ∈ separator ∨ ∃ text ∈ texts, c ∈ text := by
  induction texts with
  | nil => simp at hc
  | cons text texts ih =>
      cases texts with
      | nil => exact .inr ⟨text, List.mem_cons_self, by simpa using hc⟩
      | cons next texts =>
          rw [List.intercalate_cons_cons, List.append_assoc, List.mem_append, List.mem_append] at hc
          rcases hc with hc | hc | hc
          · exact .inr ⟨text, List.mem_cons_self, hc⟩
          · exact .inl hc
          · rcases ih hc with hseparator | ⟨t, ht, hct⟩
            · exact .inl hseparator
            · exact .inr ⟨t, List.mem_cons_of_mem text ht, hct⟩

/-- Each part stands somewhere in a joined text. -/
lemma infix_intercalate {separator text : List Char} {texts : List (List Char)}
    (htext : text ∈ texts) : text <:+: separator.intercalate texts := by
  induction texts with
  | nil => cases htext
  | cons first texts ih =>
      by_cases hnone : texts = []
      · obtain rfl : text = first := by simpa [hnone] using htext
        simp [hnone]
      · rw [List.intercalate_cons_of_ne_nil hnone]
        rcases List.mem_cons.mp htext with rfl | htext
        · rw [List.append_assoc]
          exact (List.prefix_append _ _).isInfix
        · exact (ih htext).trans (List.suffix_append _ _).isInfix

/-- **A name in snake case holds underscores and the lower case of its own letters and numbers**,
and nothing else. -/
theorem mem_snakeCase {s : String} {c : Char} (hc : c ∈ (snakeCase s).toList) :
    c = '_' ∨ c = 'ς' ∨ ∃ d ∈ s.toList, isAlphanumeric d = true ∧ c ∈ lowerOf d := by
  rw [snakeCase, String.toList_ofList] at hc
  rcases mem_intercalate hc with hunderscore | ⟨text, htext, hc⟩
  · exact .inl (List.mem_singleton.mp hunderscore)
  · obtain ⟨word, hword, rfl⟩ := List.mem_map.mp htext
    obtain ⟨piece, hpiece, hword⟩ := List.mem_flatMap.mp hword
    rcases mem_lowerWord hc with hsigma | ⟨d, hd, hc⟩
    · exact .inr (.inl hsigma)
    · have hmem := (mem_caseWordsFrom hword hd).resolve_left List.not_mem_nil
      have htext := (mem_alphanumericPiecesFrom hpiece hmem).resolve_left List.not_mem_nil
      exact .inr (.inr ⟨d, htext.1, htext.2, hc⟩)

end SqlAccess.Text
