import SqlAccess.Proofs.Text.SnakeCase
import SqlAccess.Text.Ascii

/-!
# Names that are in snake case already

Putting a name in snake case leaves it as it is if it is in snake case already
(`snakeCase_of_isSnakeName`).  The other way round, **a name that comes out of `snakeCase` is in
snake case** if it is ASCII and no digit stands in front (`isSnakeName_snakeCase`).

Lower-casing makes up no characters of another kind.  Of all letters beyond ASCII only the Kelvin
sign and the dotted capital `İ` have ASCII in their lower case, and that is a letter again; so an
ASCII character of the result is a lower-case letter, a digit, or an underscore between two words
(`snakeWords_mem`).
-/

namespace SqlAccess.Text

/-! ## Snake names -/

/-- A lower-case letter or a digit of ASCII. -/
def isSnakeChar (c : Char) : Bool := c.isLower || c.isDigit

/-- Whether characters are a word of a name in snake case. -/
def isSnakeWord (word : List Char) : Bool := !word.isEmpty && word.all isSnakeChar

/-- Whether a name is in snake case: words of lower-case letters and digits with single underscores
between them, and a letter in front. -/
def isSnakeName (name : String) : Bool :=
  name.toList.head?.any Char.isLower && (pieces '_' name.toList).all isSnakeWord

lemma isSnakeWord_iff {word : List Char} :
    isSnakeWord word = true ↔ word ≠ [] ∧ ∀ c ∈ word, isSnakeChar c = true := by
  simp [isSnakeWord]

/-! ## Pieces -/

lemma piecesFrom_ne_nil (mark : Char) (piece text : List Char) :
    piecesFrom mark piece text ≠ [] := by
  fun_induction piecesFrom mark piece text <;> simp_all

/-- Nothing is lost: with the marks between them the pieces are the text. -/
lemma intercalate_piecesFrom (mark : Char) (piece text : List Char) :
    [mark].intercalate (piecesFrom mark piece text) = piece ++ text := by
  induction text generalizing piece with
  | nil => simp [piecesFrom]
  | cons c text ih =>
      rw [piecesFrom]
      split_ifs with hc
      · rw [List.intercalate_cons_of_ne_nil (piecesFrom_ne_nil _ _ _), ih, hc]
        simp
      · rw [ih]
        simp

lemma piecesFrom_append {mark : Char} {word : List Char} (h : mark ∉ word)
    (piece rest : List Char) :
    piecesFrom mark piece (word ++ rest) = piecesFrom mark (piece ++ word) rest := by
  induction word generalizing piece with
  | nil => simp
  | cons c word ih =>
      rw [List.mem_cons, not_or] at h
      rw [List.cons_append, piecesFrom, if_neg (Ne.symm h.1), ih h.2, List.append_assoc,
        List.singleton_append]

/-- Texts without a mark are the pieces of the text that they make with marks between them. -/
lemma pieces_intercalate {mark : Char} {words : List (List Char)} (hne : words ≠ [])
    (h : ∀ word ∈ words, mark ∉ word) : pieces mark ([mark].intercalate words) = words := by
  induction words with
  | nil => exact absurd rfl hne
  | cons word words ih =>
      obtain ⟨hword, hwords⟩ := List.forall_mem_cons.mp h
      by_cases hnone : words = []
      · subst hnone
        have hpiece := piecesFrom_append hword [] []
        rw [List.append_nil, List.nil_append] at hpiece
        rw [List.intercalate_singleton, pieces, hpiece, piecesFrom]
      · rw [List.intercalate_cons_of_ne_nil hnone, List.append_assoc, pieces,
          piecesFrom_append hword, List.singleton_append, piecesFrom, if_pos rfl]
        exact congrArg (_ :: ·) (ih hnone hwords)

/-! ## Snake names are kept -/

lemma toNat_lt_of_isSnakeChar {c : Char} (h : isSnakeChar c = true) : c.toNat < 128 := by
  rcases Bool.or_eq_true_iff.mp h with hlower | hdigit
  · exact ascii_of_le (of_decide_eq_true (Bool.and_eq_true_iff.mp hlower).2) (by decide)
  · exact ascii_of_le (of_decide_eq_true (Bool.and_eq_true_iff.mp hdigit).2) (by decide)

/-- A character of a snake name belongs to words, is no capital and its own lower case. -/
lemma snakeChar_kept {c : Char} (h : isSnakeChar c = true) :
    isAlphanumeric c = true ∧ isUppercase c = false ∧ c.toLower = c ∧ c ≠ '_' := by
  have hc := toNat_lt_of_isSnakeChar h
  have hkept := ascii_forall (p := fun c => !isSnakeChar c ||
    (c.isAlphanum && !c.isUpper && c.toLower == c && c != '_')) (by decide) hc
  simp only [h, Bool.not_true, Bool.false_or, Bool.and_eq_true, Bool.not_eq_true', beq_iff_eq,
    bne_iff_ne] at hkept
  obtain ⟨⟨⟨hletter, hcapital⟩, hlower⟩, hunderscore⟩ := hkept
  exact ⟨by rwa [isAlphanumeric, if_pos hc], by rwa [isUppercase, if_pos hc], hlower, hunderscore⟩

lemma alphanumericPiecesFrom_append {word : List Char} (h : ∀ c ∈ word, isAlphanumeric c = true)
    (piece rest : List Char) :
    alphanumericPiecesFrom piece (word ++ rest) = alphanumericPiecesFrom (piece ++ word) rest := by
  induction word generalizing piece with
  | nil => simp
  | cons c word ih =>
      obtain ⟨hc, hword⟩ := List.forall_mem_cons.mp h
      rw [List.cons_append, alphanumericPiecesFrom, if_pos hc, ih hword, List.append_assoc,
        List.singleton_append]

lemma alphanumericPieces_intercalate {words : List (List Char)}
    (h : ∀ word ∈ words, word ≠ [] ∧ ∀ c ∈ word, isAlphanumeric c = true) :
    alphanumericPieces (['_'].intercalate words) = words := by
  induction words with
  | nil => rfl
  | cons word words ih =>
      obtain ⟨⟨hne, hword⟩, hwords⟩ := List.forall_mem_cons.mp h
      have hempty : word.isEmpty = false := by simpa using hne
      by_cases hnone : words = []
      · subst hnone
        have hpiece := alphanumericPiecesFrom_append hword [] []
        rw [List.append_nil, List.nil_append] at hpiece
        rw [List.intercalate_singleton, alphanumericPieces, hpiece, alphanumericPiecesFrom, hempty,
          if_neg (by simp)]
      · rw [List.intercalate_cons_of_ne_nil hnone, List.append_assoc, alphanumericPieces,
          alphanumericPiecesFrom_append hword, List.singleton_append, List.nil_append,
          alphanumericPiecesFrom, if_neg (by decide), hempty, if_neg (by simp)]
        exact congrArg (word :: ·) (ih hwords)

/-- Without capitals nothing is cut. -/
lemma caseWordsFrom_of_not_isUppercase {word text : List Char} {case : WordCase}
    (htext : ∀ c ∈ text, isUppercase c = false) (hne : word ++ text ≠ []) :
    caseWordsFrom word case text = [word ++ text] := by
  fun_induction caseWordsFrom word case text with
  | case1 => simp_all
  | case2 => simp_all
  | case3 => rfl
  | case4 => simp_all
  | case5 => simp_all
  | case6 word case c next text _ _ ih =>
      rw [ih (List.forall_mem_cons.mp htext).2 (by simp)]
      simp

lemma lowerWord_of_isSnakeChar {word : List Char} (h : ∀ c ∈ word, isSnakeChar c = true) :
    lowerWord word = word := by
  rw [lowerWord_of_ascii fun c hc => toNat_lt_of_isSnakeChar (h c hc)]
  exact (List.map_congr_left fun c hc => (snakeChar_kept (h c hc)).2.2.1).trans (List.map_id' word)

/-- Words of lower-case letters and digits are not cut, and stay as they are. -/
lemma map_lowerWord_caseWords {words : List (List Char)}
    (h : ∀ word ∈ words, isSnakeWord word = true) :
    (words.flatMap caseWords).map lowerWord = words := by
  induction words with
  | nil => rfl
  | cons word words ih =>
      obtain ⟨hfirst, hothers⟩ := List.forall_mem_cons.mp h
      obtain ⟨hne, hword⟩ := isSnakeWord_iff.mp hfirst
      have hcase : caseWords word = [word] := caseWordsFrom_of_not_isUppercase
        (fun c hc => (snakeChar_kept (hword c hc)).2.1) hne
      rw [List.flatMap_cons, hcase, List.map_append, ih hothers, List.map_singleton,
        lowerWord_of_isSnakeChar hword, List.singleton_append]

/-- **A name in snake case stays as it is.** -/
theorem snakeCase_of_isSnakeName {name : String} (h : isSnakeName name = true) :
    snakeCase name = name := by
  obtain ⟨-, hwords⟩ := Bool.and_eq_true_iff.mp h
  have hsnake : ∀ word ∈ pieces '_' name.toList, isSnakeWord word = true :=
    List.all_eq_true.mp hwords
  have hname : ['_'].intercalate (pieces '_' name.toList) = name.toList :=
    intercalate_piecesFrom '_' [] name.toList
  have hpieces := alphanumericPieces_intercalate fun word hword =>
    have hchars := isSnakeWord_iff.mp (hsnake word hword)
    ⟨hchars.1, fun c hc => (snakeChar_kept (hchars.2 c hc)).1⟩
  rw [hname] at hpieces
  rw [snakeCase, hpieces, map_lowerWord_caseWords hsnake, hname, String.ofList_toList]

/-! ## What comes out of snake case -/

/-- Where lower-casing leads from beyond ASCII: to beyond ASCII, or from the Kelvin sign to a letter;
and never to a code point that is no character. -/
lemma lowerMappingRows_range : ∀ row ∈ lowerMappingRows, row.2.1 < 128 ∨
    (128 ≤ row.1 + row.2.2.2 ∧ row.2.1 + row.2.2.2 < 0xD800) ∨
    (0xE000 ≤ row.1 + row.2.2.2 ∧ row.2.1 + row.2.2.2 < 0x110000) ∨
    (row.1 = row.2.1 ∧ row.1 + row.2.2.2 = 'k'.toNat) := by
  decide +kernel

/-- **The lower case of a letter or number** is beyond ASCII, or a lower-case letter or digit. -/
lemma lowerOf_range {c d : Char} (hd : isAlphanumeric d = true) (hc : c ∈ lowerOf d) :
    128 ≤ c.toNat ∨ isSnakeChar c = true := by
  unfold lowerOf at hc
  split_ifs at hc with hascii hdotted
  · obtain rfl := List.mem_singleton.mp hc
    rw [isAlphanumeric, if_pos hascii] at hd
    have hlower := ascii_forall (p := fun d => !d.isAlphanum || isSnakeChar d.toLower)
      (by decide) hascii
    exact .inr (by simpa [hd] using hlower)
  · simp only [List.mem_cons, List.not_mem_nil, or_false] at hc
    rcases hc with rfl | rfl
    · exact .inr (by decide)
    · exact .inl (by decide)
  · obtain rfl := List.mem_singleton.mp hc
    unfold lowerOffset
    split
    · rename_i first last stride offset hrow
      have hrange := lowerMappingRows_range _ (List.mem_of_find?_eq_some hrow)
      have hmatch := List.find?_some hrow
      simp only [Bool.and_eq_true, decide_eq_true_eq] at hmatch hrange
      obtain ⟨⟨hfirst, hlast⟩, -⟩ := hmatch
      have hvalid {n : Nat} (h : n.isValidChar) : (Char.ofNat n).toNat = n := by
        rw [Char.ofNat, dif_pos h]
        rfl
      rcases hrange with hbelow | ⟨hlow, hhigh⟩ | ⟨hlow, hhigh⟩ | ⟨honly, hkelvin⟩
      · omega
      · rw [hvalid (.inl (by omega))]
        omega
      · rw [hvalid (.inr (by omega))]
        omega
      · have hcode : ((d.toNat : Int) + offset).toNat = 'k'.toNat := by omega
        rw [hcode]
        exact .inr (by decide)
    · rw [Int.add_zero, Int.toNat_natCast, Char.ofNat_toNat]
      exact .inl (Nat.le_of_not_lt hascii)

/-- The words that a name in snake case is joined of. -/
def snakeWords (s : String) : List (List Char) :=
  ((alphanumericPieces s.toList).flatMap caseWords).map lowerWord

lemma toList_snakeCase (s : String) :
    (snakeCase s).toList = ['_'].intercalate (snakeWords s) :=
  String.toList_ofList

lemma ne_nil_of_mem_caseWordsFrom {word text w : List Char} {case : WordCase}
    (hcase : case = .upper → word ≠ []) (h : w ∈ caseWordsFrom word case text) : w ≠ [] := by
  fun_induction caseWordsFrom word case text with
  | case1 => simp at h
  | case2 => simp_all
  | case3 => simp_all
  | case4 word case c next text _ ih =>
      rcases List.mem_cons.mp h with rfl | h
      · simp
      · exact ih (by simp) h
  | case5 word case c next text _ hcapital ih =>
      simp only [Bool.and_eq_true, decide_eq_true_eq] at hcapital
      rcases List.mem_cons.mp h with rfl | h
      · exact hcase hcapital.1.1
      · exact ih (by simp) h
  | case6 word case c next text _ _ ih => exact ih (by simp) h

lemma lowerWord_ne_nil {word : List Char} (h : word ≠ []) : lowerWord word ≠ [] := by
  have hlower (c : Char) : lowerOf c ≠ [] := by
    unfold lowerOf
    split_ifs <;> simp
  fun_induction lowerWord word <;> simp_all

/-- **The words of a name in snake case** are not empty, and hold lower-case letters and digits where
they are ASCII. -/
lemma snakeWords_mem {s : String} {word : List Char} (h : word ∈ snakeWords s) :
    word ≠ [] ∧ ∀ c ∈ word, 128 ≤ c.toNat ∨ isSnakeChar c = true := by
  obtain ⟨cased, hcased, rfl⟩ := List.mem_map.mp h
  obtain ⟨piece, hpiece, hcased⟩ := List.mem_flatMap.mp hcased
  refine ⟨lowerWord_ne_nil (ne_nil_of_mem_caseWordsFrom (by simp) hcased), fun c hc => ?_⟩
  rcases mem_lowerWord hc with rfl | ⟨d, hd, hc⟩
  · exact .inl (by decide)
  · have hmem := (mem_caseWordsFrom hcased hd).resolve_left List.not_mem_nil
    exact lowerOf_range ((mem_alphanumericPiecesFrom hpiece hmem).resolve_left
      List.not_mem_nil).2 hc

/-- What comes out of snake case holds underscores, lower-case letters and digits where it is
ASCII. -/
lemma snakeCase_mem {s : String} {c : Char} (hc : c ∈ (snakeCase s).toList) :
    c = '_' ∨ 128 ≤ c.toNat ∨ isSnakeChar c = true := by
  rw [toList_snakeCase] at hc
  rcases mem_intercalate hc with hunderscore | ⟨word, hword, hc⟩
  · exact .inl (List.mem_singleton.mp hunderscore)
  · exact .inr ((snakeWords_mem hword).2 c hc)

lemma snakeCase_ascii {s : String} (h : ∀ c ∈ s.toList, c.toNat < 128) {c : Char}
    (hc : c ∈ (snakeCase s).toList) : c.toNat < 128 := by
  rw [toList_snakeCase] at hc
  rcases mem_intercalate hc with hunderscore | ⟨word, hword, hc⟩
  · obtain rfl := List.mem_singleton.mp hunderscore
    decide
  · obtain ⟨cased, hcased, rfl⟩ := List.mem_map.mp hword
    obtain ⟨piece, hpiece, hcased⟩ := List.mem_flatMap.mp hcased
    have hletters : ∀ d ∈ cased, d.toNat < 128 := fun d hd => by
      have hmem := (mem_caseWordsFrom hcased hd).resolve_left List.not_mem_nil
      exact h d ((mem_alphanumericPiecesFrom hpiece hmem).resolve_left List.not_mem_nil).1
    rw [lowerWord_of_ascii hletters] at hc
    obtain ⟨d, hd, rfl⟩ := List.mem_map.mp hc
    have hlower := ascii_forall (p := fun d => decide (d.toLower.toNat < 128)) (by decide)
      (hletters d hd)
    exact of_decide_eq_true hlower

/-- **What comes out of snake case is in snake case**, if it is an ASCII name that does not begin
with a digit. -/
theorem isSnakeName_snakeCase {s : String} {c : Char} {rest : List Char}
    (hname : (snakeCase s).toList = c :: rest) (hdigit : c.isDigit = false)
    (hascii : ∀ d ∈ (snakeCase s).toList, d.toNat < 128) : isSnakeName (snakeCase s) = true := by
  have hwords : ∀ word ∈ snakeWords s, isSnakeWord word = true := by
    intro word hword
    obtain ⟨hne, hchars⟩ := snakeWords_mem hword
    refine isSnakeWord_iff.mpr ⟨hne, fun d hd => (hchars d hd).resolve_left ?_⟩
    have hmem : d ∈ (snakeCase s).toList := by
      rw [toList_snakeCase]
      exact (infix_intercalate hword).subset hd
    exact Nat.not_le.mpr (hascii d hmem)
  cases hsnake : snakeWords s with
  | nil => simp [toList_snakeCase, hsnake] at hname
  | cons word words =>
      have hfirst := isSnakeWord_iff.mp (hwords word (by simp [hsnake]))
      have hpieces : pieces '_' (snakeCase s).toList = snakeWords s := by
        rw [toList_snakeCase]
        refine pieces_intercalate (by simp [hsnake]) fun w hw hmem => ?_
        exact (snakeChar_kept ((isSnakeWord_iff.mp (hwords w hw)).2 _ hmem)).2.2.2 rfl
      have hlower : c.isLower = true := by
        obtain ⟨d, word, rfl⟩ := List.exists_cons_of_ne_nil hfirst.1
        obtain rfl : d = c := by
          rw [toList_snakeCase, hsnake] at hname
          cases words <;> simp_all [List.intercalate_cons_cons]
        simpa [isSnakeChar, hdigit] using hfirst.2 d List.mem_cons_self
      rw [isSnakeName, hpieces, hname]
      simpa [hlower] using hwords

end SqlAccess.Text
