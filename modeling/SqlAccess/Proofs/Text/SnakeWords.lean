import SqlAccess.Proofs.Text.SnakeName

/-!
# The words of a name

Snake case loses no letter or number of a name and changes the order of none: the words that a name
is cut into are, one behind the other, its letters and numbers (`flatten_words`).  So **the first
character of the snake case of an ASCII name is its first letter or digit**, in lower case
(`head?_snakeCase`), and all that stands in front of it in the name is dropped.

A name without capitals is cut at its separators only.  Its words are then the runs between them
(`alphanumericPieces_eq`).
-/

namespace SqlAccess.Text

/-! ## Nothing is lost -/

lemma flatten_alphanumericPiecesFrom (piece text : List Char) :
    (alphanumericPiecesFrom piece text).flatten = piece ++ text.filter isAlphanumeric := by
  fun_induction alphanumericPiecesFrom piece text <;> simp_all

lemma flatten_caseWordsFrom (word text : List Char) (case : WordCase) :
    (caseWordsFrom word case text).flatten = word ++ text := by
  fun_induction caseWordsFrom word case text <;> simp_all

/-- **The words of a text are its letters and numbers.** -/
theorem flatten_words (text : List Char) :
    ((alphanumericPieces text).flatMap caseWords).flatten = text.filter isAlphanumeric := by
  have hpieces : (alphanumericPieces text).map (fun piece => (caseWords piece).flatten) =
      alphanumericPieces text :=
    (List.map_congr_left fun piece _ => flatten_caseWordsFrom [] piece .uncased).trans
      (List.map_id' _)
  rw [List.flatMap_def, List.flatten_flatten, List.map_map]
  exact (congrArg List.flatten hpieces).trans (flatten_alphanumericPiecesFrom [] text)

/-! ## The first character -/

/-- A joined text begins as its first part does. -/
lemma head?_intercalate {separator : List Char} {texts : List (List Char)}
    (h : ∀ text ∈ texts, text ≠ []) :
    (separator.intercalate texts).head? = texts.flatten.head? := by
  cases texts with
  | nil => rfl
  | cons text texts =>
      obtain ⟨c, text, rfl⟩ := List.exists_cons_of_ne_nil (h text List.mem_cons_self)
      cases texts <;> simp [List.intercalate_cons_cons]

/-- In ASCII, the words are the letters and numbers of the name in lower case. -/
lemma flatten_snakeWords {s : String} (h : ∀ c ∈ s.toList, c.toNat < 128) :
    (snakeWords s).flatten = (s.toList.filter isAlphanumeric).map Char.toLower := by
  have hlower : snakeWords s =
      ((alphanumericPieces s.toList).flatMap caseWords).map (List.map Char.toLower) := by
    refine List.map_congr_left fun word hword => lowerWord_of_ascii fun c hc => h c ?_
    have hmem := List.mem_flatten.mpr ⟨word, hword, hc⟩
    rw [flatten_words] at hmem
    exact (List.mem_filter.mp hmem).1
  rw [hlower, ← List.map_flatten, flatten_words]

/-- **Snake case begins with the first letter or digit of the name.** -/
theorem head?_snakeCase {s : String} (h : ∀ c ∈ s.toList, c.toNat < 128) :
    (snakeCase s).toList.head? = (s.toList.find? isAlphanumeric).map Char.toLower := by
  rw [toList_snakeCase, head?_intercalate fun word hword => (snakeWords_mem hword).1, flatten_snakeWords h,
    List.head?_map, List.head?_filter]

/-! ## Runs between separators -/

/-- The pieces of a text are the runs between its separators, without the empty ones. -/
lemma alphanumericPiecesFrom_eq {separates : Char → Bool} {text : List Char}
    (h : ∀ c ∈ text, separates c = !isAlphanumeric c) (piece : List Char) :
    alphanumericPiecesFrom piece text =
      ((text.splitOnP separates).modifyHead (piece ++ ·)).filter fun run => !run.isEmpty := by
  induction text generalizing piece with
  | nil => cases piece <;> simp [alphanumericPiecesFrom]
  | cons c text ih =>
      obtain ⟨hc, htext⟩ := List.forall_mem_cons.mp h
      obtain ⟨run, runs, hruns⟩ := List.exists_cons_of_ne_nil (List.splitOnP_ne_nil separates text)
      rw [alphanumericPiecesFrom, List.splitOnP_cons_eq_if_modifyHead, hc]
      cases hletter : isAlphanumeric c with
      | true => simp [ih htext, hruns]
      | false => cases piece <;> simp [ih htext, hruns]

theorem alphanumericPieces_eq {separates : Char → Bool} {text : List Char}
    (h : ∀ c ∈ text, separates c = !isAlphanumeric c) :
    alphanumericPieces text = (text.splitOnP separates).filter fun run => !run.isEmpty := by
  rw [alphanumericPieces, alphanumericPiecesFrom_eq h]
  cases text.splitOnP separates <;> rfl

end SqlAccess.Text
