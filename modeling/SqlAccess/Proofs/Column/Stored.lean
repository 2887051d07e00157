import SqlAccess.Proofs.Column.Bare

/-!
# What becomes of lower-case names

Names of columns in a database are often lower-case identifiers, with underscores and dollar signs
anywhere.  Such a name need not be in snake case, and **snake case is what a column is stored
under**: `__user$id` becomes `user_id`.  Of each segment the *words* count, which are the runs of
letters and digits in it; they are joined again by single underscores.

**`Column.normalize_stored`** says what this means for names that do not begin with digits.  A
segment without words (`_`) is refused.  A name is kept exactly if all its segments are in snake
case, which is so for whatever comes out.  And two names stand for the same column exactly if they
have the same words.
-/

namespace SqlAccess

open Text (isSnakeChar isSnakeName isSnakeWord snakeCase)

/-! ## Lower-case identifiers -/

/-- Whether a text is a lower-case identifier: a lower-case letter or an underscore, and behind it
lower-case letters, digits, underscores and dollar signs. -/
def isStoredWord (word : String) : Bool :=
  word.toList.head?.any (fun c => c == '_' || c.isLower) &&
    word.toList.all fun c => c == '_' || c == '$' || isSnakeChar c

/-- The words of a lower-case identifier: what stands between underscores and dollar signs. -/
def storedWords (segment : String) : List (List Char) :=
  (segment.toList.splitOnP fun c => c == '_' || c == '$').filter fun word => !word.isEmpty

/-- The words of a lower-case identifier with single underscores between them. -/
def storedName (segment : String) : String :=
  String.ofList (['_'].intercalate (storedWords segment))

lemma mem_of_isStoredWord {word : String} (h : isStoredWord word = true) {c : Char}
    (hc : c ∈ word.toList) : (c = '_' ∨ c = '$') ∨ isSnakeChar c = true := by
  have hall := List.all_eq_true.mp (Bool.and_eq_true_iff.mp h).2 c hc
  simpa using hall

lemma isPlainWord_of_isStoredWord {word : String} (h : isStoredWord word = true) :
    isPlainWord word.toList = true := by
  have hcontinues : ∀ c ∈ word.toList, continuesWord c = true := by
    intro c hc
    rcases mem_of_isStoredWord h hc with (rfl | rfl) | hsnake
    · decide
    · decide
    · exact continuesWord_of_snake (.inr hsnake)
  have hfirst := (Bool.and_eq_true_iff.mp h).1
  cases hword : word.toList with
  | nil => simp [hword] at hfirst
  | cons c rest =>
      rw [hword, List.head?_cons, Option.any_some, Bool.or_eq_true] at hfirst
      rw [hword, List.forall_mem_cons] at hcontinues
      have hstarts : startsWord c = true := by
        rw [startsWord, Bool.or_eq_true]
        exact hfirst.imp_right fun hlower => Bool.or_eq_true_iff.mpr (.inr hlower)
      rw [isPlainWord, hstarts, Bool.true_and]
      exact List.all_eq_true.mpr hcontinues.2

/-- A character of a lower-case identifier separates words or belongs to one. -/
lemma separates_of_isStoredWord {word : String} (h : isStoredWord word = true) :
    ∀ c ∈ word.toList, (c == '_' || c == '$') = !Text.isAlphanumeric c := by
  intro c hc
  rcases mem_of_isStoredWord h hc with (rfl | rfl) | hsnake
  · decide
  · decide
  · have hnone := Text.ascii_forall (p := fun c => !isSnakeChar c || (c != '_' && c != '$'))
      (by decide) (Text.toNat_lt_of_isSnakeChar hsnake)
    rw [(Text.snakeChar_kept hsnake).1]
    simpa [hsnake] using hnone

lemma storedWords_eq {word : String} (h : isStoredWord word = true) :
    storedWords word = Text.alphanumericPieces word.toList :=
  (Text.alphanumericPieces_eq (separates_of_isStoredWord h)).symm

lemma isSnakeWord_of_mem_storedWords {segment : String} (h : isStoredWord segment = true)
    {word : List Char} (hword : word ∈ storedWords segment) : isSnakeWord word = true := by
  refine Text.isSnakeWord_iff.mpr ⟨by simpa using (List.mem_filter.mp hword).2, fun c hc => ?_⟩
  rw [storedWords_eq h] at hword
  obtain ⟨hmem, hletter⟩ :=
    (Text.mem_alphanumericPiecesFrom hword hc).resolve_left List.not_mem_nil
  refine (mem_of_isStoredWord h hmem).resolve_left fun hseparator => ?_
  have hnone := separates_of_isStoredWord h c hmem
  rcases hseparator with rfl | rfl <;> simp [hletter] at hnone

/-- **A lower-case identifier in snake case is its words** with single underscores between them. -/
theorem snakeCase_of_isStoredWord {segment : String} (h : isStoredWord segment = true) :
    snakeCase segment = storedName segment := by
  rw [snakeCase, ← storedWords_eq h, storedName,
    Text.map_lowerWord_caseWords fun word hword => isSnakeWord_of_mem_storedWords h hword]

/-- The words can be told from what they are joined to. -/
lemma pieces_storedName {segment : String} (h : isStoredWord segment = true)
    (hwords : storedWords segment ≠ []) :
    Text.pieces '_' (storedName segment).toList = storedWords segment := by
  rw [storedName, String.toList_ofList]
  refine Text.pieces_intercalate hwords fun word hword hmem => ?_
  have hsnake := Text.isSnakeWord_iff.mp (isSnakeWord_of_mem_storedWords h hword)
  exact (Text.snakeChar_kept (hsnake.2 _ hmem)).2.2.2 rfl

lemma storedName_eq_nil_iff {segment : String} :
    (storedName segment).toList = [] ↔ storedWords segment = [] := by
  rw [storedName, String.toList_ofList]
  refine ⟨fun hnil => List.eq_nil_iff_forall_not_mem.mpr fun word hword => ?_, fun hnil => ?_⟩
  · have hfound : word <:+: ['_'].intercalate (storedWords segment) := Text.infix_intercalate hword
    rw [hnil, List.infix_nil] at hfound
    simpa [hfound] using (List.mem_filter.mp hword).2
  · rw [hnil, List.intercalate_nil]

/-- Where the words begin with a letter, they make a name in snake case. -/
lemma isSnakeName_storedName {segment : String} (h : isStoredWord segment = true)
    (hletter : startsAsNumber segment = false) (hwords : storedWords segment ≠ []) :
    isSnakeName (storedName segment) = true := by
  have hsnake := snakeCase_of_isStoredWord h
  have hne : (snakeCase segment).toList ≠ [] := by
    rwa [hsnake, ne_eq, storedName_eq_nil_iff]
  have hplain := (isPlainWord_snakeCase_iff (isPlainWord_of_isStoredWord h) hne).mpr hletter
  rw [← hsnake]
  exact isSnakeName_of_isPlainWord hplain

/-! ## Columns -/

/-- Whether segments are lower-case identifiers, and the first letter or digit of each is no digit.
-/
structure AreStored (segments : List String) : Prop where
  ne_nil : segments ≠ []
  stored : ∀ segment ∈ segments, isStoredWord segment = true
  letters : ∀ segment ∈ segments, startsAsNumber segment = false

lemma AreStored.plain {segments : List String} (h : AreStored segments) :
    ∀ segment ∈ segments, isPlainWord segment.toList = true :=
  fun segment hmem => isPlainWord_of_isStoredWord (h.stored segment hmem)

/-- Every segment is put into its words. -/
lemma AreStored.normalize {segments : List String} (h : AreStored segments)
    (hwords : ∀ segment ∈ segments, storedWords segment ≠ []) :
    Column.normalize (".".intercalate segments) =
      .ok (.plain ⟨(segments.map storedName).map .bare⟩) := by
  have hsnake : ∀ segment ∈ segments, snakeCase segment = storedName segment :=
    fun segment hmem => snakeCase_of_isStoredWord (h.stored segment hmem)
  refine (Column.normalize_bare_eq_ok h.ne_nil h.plain).mpr ⟨fun segment hmem => ?_, ?_⟩
  · rw [hsnake segment hmem, ne_eq, storedName_eq_nil_iff]
    exact hwords segment hmem
  · rw [← List.map_congr_left hsnake, List.map_map]
    rfl

/-- What comes out is made of names in snake case. -/
lemma AreStored.forall_isSnakeName {segments : List String} (h : AreStored segments)
    (hwords : ∀ segment ∈ segments, storedWords segment ≠ []) :
    ∀ segment ∈ segments.map storedName, isSnakeName segment = true :=
  List.forall_mem_map.mpr fun segment hmem =>
    isSnakeName_storedName (h.stored segment hmem) (h.letters segment hmem) (hwords segment hmem)

/-- A name is kept exactly if its segments are in snake case. -/
lemma AreStored.normalize_eq_self_iff {segments : List String} (h : AreStored segments) :
    Column.normalize (".".intercalate segments) = .ok (.plain ⟨segments.map .bare⟩) ↔
      ∀ segment ∈ segments, isSnakeName segment = true := by
  refine ⟨fun hnormal segment hmem => ?_, Column.normalize_of_forall_isSnakeName h.ne_nil⟩
  obtain ⟨-, hkept⟩ := (Column.normalize_bare_eq_ok h.ne_nil h.plain).mp hnormal
  have hparts := Ident.mk.inj (Column.plain.inj hkept)
  have hsame : snakeCase segment = segment :=
    (IdentPart.bare.inj (List.map_inj_left.mp hparts segment hmem)).symm
  have hplain := h.plain segment hmem
  rw [← hsame] at hplain ⊢
  exact isSnakeName_of_isPlainWord hplain

/-- The words of all segments can be told from what they are put into. -/
lemma AreStored.map_pieces {segments : List String} (h : AreStored segments)
    (hwords : ∀ segment ∈ segments, storedWords segment ≠ []) :
    (segments.map storedName).map (fun name => Text.pieces '_' name.toList) =
      segments.map storedWords := by
  rw [List.map_map]
  refine List.map_congr_left fun segment hmem => ?_
  rw [Function.comp_apply, pieces_storedName (h.stored segment hmem) (hwords segment hmem)]

/-- Two lists of segments are put into the same exactly if they have the same words. -/
lemma AreStored.map_storedName_inj {segments others : List String} (h : AreStored segments)
    (h' : AreStored others) (hwords : ∀ segment ∈ segments, storedWords segment ≠ [])
    (hwords' : ∀ segment ∈ others, storedWords segment ≠ []) :
    segments.map storedName = others.map storedName ↔
      segments.map storedWords = others.map storedWords := by
  constructor
  · intro hsame
    rw [← h.map_pieces hwords, ← h'.map_pieces hwords', hsame]
  · intro hsame
    have hjoined (segments : List String) : segments.map storedName =
        (segments.map storedWords).map fun words => String.ofList (['_'].intercalate words) := by
      rw [List.map_map]
      exact List.map_congr_left fun segment _ => rfl
    rw [hjoined, hjoined, hsame]

/-- **What becomes of lower-case names** that do not begin with digits.  A name is refused if one of
its segments has no words.  Else every segment is put into its words, and what that gives is kept
from then on.  So a name is kept exactly if its segments are in snake case, and two names stand for
the same column exactly if they have the same words. -/
theorem Column.normalize_stored {segments : List String} (h : AreStored segments) :
    ((∃ segment ∈ segments, storedWords segment = []) →
      normalize (".".intercalate segments) = .error (.noWords (".".intercalate segments))) ∧
    ((∀ segment ∈ segments, storedWords segment ≠ []) →
      normalize (".".intercalate segments) =
          .ok (.plain ⟨(segments.map storedName).map .bare⟩) ∧
        normalize (".".intercalate (segments.map storedName)) =
          normalize (".".intercalate segments)) ∧
    (normalize (".".intercalate segments) = .ok (.plain ⟨segments.map .bare⟩) ↔
      ∀ segment ∈ segments, isSnakeName segment = true) ∧
    ∀ others, AreStored others → (∀ segment ∈ segments, storedWords segment ≠ []) →
      (∀ segment ∈ others, storedWords segment ≠ []) →
      (normalize (".".intercalate segments) = normalize (".".intercalate others) ↔
        segments.map storedWords = others.map storedWords) := by
  refine ⟨?_, fun hwords => ⟨h.normalize hwords, ?_⟩, h.normalize_eq_self_iff, ?_⟩
  · rintro ⟨segment, hmem, hnone⟩
    refine normalize_bare_eq_error h.plain hmem ?_
    rw [snakeCase_of_isStoredWord (h.stored segment hmem)]
    exact storedName_eq_nil_iff.mpr hnone
  · rw [h.normalize hwords,
      normalize_of_forall_isSnakeName (by simpa using h.ne_nil) (h.forall_isSnakeName hwords)]
  · intro others h' hwords hwords'
    have hbare : Function.Injective (List.map IdentPart.bare) :=
      List.map_injective_iff.mpr fun _ _ hsame => IdentPart.bare.inj hsame
    rw [h.normalize hwords, h'.normalize hwords', ← h.map_storedName_inj h' hwords hwords',
      ← hbare.eq_iff]
    simp only [Except.ok.injEq, Column.plain.injEq, Ident.mk.injEq]

/-- An underscore in front, a dollar sign and two underscores in a row are lost, and with them what
tells two names apart. -/
theorem Column.normalize_stored_of_marks :
    AreStored ["_app", "user$id__"] ∧ AreStored ["app", "user_id"] ∧
      normalize "_app.user$id__" = .ok (.plain ⟨[.bare "app", .bare "user_id"]⟩) ∧
      normalize "_app.user$id__" = normalize "app.user_id" := by
  have h : AreStored ["_app", "user$id__"] := ⟨by simp, by decide, by decide⟩
  have h' : AreStored ["app", "user_id"] := ⟨by simp, by decide, by decide⟩
  obtain ⟨-, hnormal, -, hsame⟩ := normalize_stored h
  exact ⟨h, h', (hnormal (by decide)).1, (hsame _ h' (by decide) (by decide)).mpr (by decide)⟩

/-- A lower-case identifier that is not kept, and stands for the column of another one. -/
theorem Column.normalize_drops_underscore :
    isStoredWord "_id" = true ∧ isStoredWord "id" = true ∧
      normalize "_id" ≠ .ok (.plain ⟨[.bare "_id"]⟩) ∧
      normalize "_id" = .ok (.plain ⟨[.bare "id"]⟩) ∧
      normalize "id" = .ok (.plain ⟨[.bare "id"]⟩) := by
  decide +kernel

end SqlAccess
