import Mathlib.Data.List.Infix
import Mathlib.Tactic.Common
import SqlAccess.Sql.Classify

/-!
# Comments in front of a statement

Two functions skip comments: `afterComment?` inside of a statement, and `afterLead?` in front of its
first word.  A statement is told by its first word alone, so a comment in front of it does not
change its kind **wherever the two agree on the end of the comment**.

They agree on all comments but those that begin with `/*/`.  There the star opens the comment and
may not end it, but `afterLead?` lets it do both, and goes on to read the inside of the comment as
the statement.  `classify_comment` says what comes of that in every case: exactly when the kind
stays, and which text is read otherwise.
-/

namespace SqlAccess.Sql

/-! ## Where a block ends -/

/-- A slash that does not follow a star ends nothing. -/
lemma afterBlock_slash (text : List Char) : afterBlock ('/' :: text) = afterBlock text := by
  cases text with
  | nil => rfl
  | cons c text =>
      rw [afterBlock, if_neg]
      rintro ⟨hstar, -⟩
      exact absurd hstar (by decide)

/-- A star that no slash follows ends nothing. -/
lemma afterBlock_star {text : List Char} (h : text.head? ≠ some '/') :
    afterBlock ('*' :: text) = afterBlock text := by
  cases text with
  | nil => rfl
  | cons c text =>
      rw [afterBlock, if_neg]
      rintro ⟨-, rfl⟩
      exact h rfl

/-! ## The two ways to skip a comment -/

/-- A comment whose star is not shared is skipped in front of the first word as it is elsewhere. -/
lemma afterLead?_of_afterComment? {text rest : List Char} (h : afterComment? text = some rest)
    (hstar : ¬['/', '*', '/'] <+: text) : afterLead? text = some rest := by
  unfold afterComment? at h
  split at h
  · exact h
  · exact h
  · split_ifs at h
    exact h
  · rename_i text
    have hhead : text.head? ≠ some '/' := by
      intro hslash
      obtain ⟨text, rfl⟩ := List.head?_eq_some_iff.mp hslash
      exact hstar ⟨text, rfl⟩
    rw [afterLead?, afterBlock_star hhead]
    exact h
  · simp at h

/-- In front of the first word a shared star ends the comment that it opens. -/
lemma afterLead?_shared (text : List Char) :
    afterLead? ('/' :: '*' :: '/' :: text) = some text := by
  simp [afterLead?, afterBlock]

/-- A comment is at least as long as the shared star of it. -/
lemma shared_prefix_comment {comment text : List Char}
    (h : afterComment? (comment ++ text) = some text)
    (hstar : ['/', '*', '/'] <+: comment ++ text) : ['/', '*', '/'] <+: comment := by
  refine List.prefix_of_prefix_length_le hstar (List.prefix_append comment text) ?_
  obtain ⟨inside, hinside⟩ := hstar
  have hblock : afterBlock inside = text := by
    rw [← hinside] at h
    rw [← afterBlock_slash]
    exact Option.some.inj h
  have hblock_length := hblock ▸ afterBlock_length inside
  have hlength := congrArg List.length hinside
  simp only [List.length_append, List.length_cons, List.length_nil] at hlength ⊢
  omega

/-! ## The first word -/

lemma fromFirstWord_of_some {text rest : List Char}
    (h : afterLead? (Text.dropBlanks text) = some rest) :
    fromFirstWord text = fromFirstWord rest := by
  rw [fromFirstWord]
  split <;> simp_all

lemma fromFirstWord_of_none {text : List Char} (h : afterLead? (Text.dropBlanks text) = none) :
    fromFirstWord text = Text.dropBlanks text := by
  rw [fromFirstWord]
  split <;> simp_all

/-- A text is its own first word on if no blank, comment or parenthesis stands in front of it. -/
lemma fromFirstWord_eq_self {text : List Char} (hblanks : Text.dropBlanks text = text)
    (hlead : afterLead? text = none) : fromFirstWord text = text :=
  (fromFirstWord_of_none (by rwa [hblanks])).trans hblanks

/-- What stands in front of the first word does not begin with a blank. -/
lemma dropBlanks_of_afterLead? {text rest : List Char} (h : afterLead? text = some rest) :
    Text.dropBlanks text = text := by
  unfold afterLead? at h
  split at h
  · exact List.dropWhile_cons_of_neg (by decide)
  · exact List.dropWhile_cons_of_neg (by decide)
  · exact List.dropWhile_cons_of_neg (by decide)
  · exact List.dropWhile_cons_of_neg (by decide)
  · simp at h

/-- The first word is looked for behind what stands in front of it. -/
lemma fromFirstWord_of_afterLead? {text rest : List Char} (h : afterLead? text = some rest) :
    fromFirstWord text = fromFirstWord rest :=
  fromFirstWord_of_some (by rwa [dropBlanks_of_afterLead? h])

lemma classify_congr {sql sql' : String}
    (h : fromFirstWord sql.toList = fromFirstWord sql'.toList) : classify sql = classify sql' := by
  rw [classify, classify, decidingStatement, decidingStatement, h]

/-- **What a comment in front of a statement does to its kind.**  A comment that does not begin with
`/*/` does nothing to it.  Of a comment that does, all that follows is read as the statement, and
so the kind stays exactly if that text is of the same kind. -/
theorem classify_comment (comment text : String)
    (h : afterComment? (comment ++ text).toList = some text.toList) :
    (classify (comment ++ text) = classify text ↔
      ∀ inside, comment = "/*/" ++ inside → classify (inside ++ text) = classify text) ∧
    ∀ inside, comment = "/*/" ++ inside →
      classify (comment ++ text) = classify (inside ++ text) := by
  have hshared : ∀ inside, comment = "/*/" ++ inside →
      classify (comment ++ text) = classify (inside ++ text) := by
    rintro inside rfl
    apply classify_congr
    rw [String.append_assoc, String.toList_append]
    exact fromFirstWord_of_afterLead? (afterLead?_shared _)
  refine ⟨⟨?_, ?_⟩, hshared⟩
  · intro hsame inside hinside
    rw [← hshared inside hinside, hsame]
  · intro hinside
    by_cases hstar : ['/', '*', '/'] <+: comment.toList
    · obtain ⟨inside, hcomment⟩ := hstar
      have hcomment : comment = "/*/" ++ String.ofList inside := by
        rw [← String.toList_inj, String.toList_append, String.toList_ofList (l := inside)]
        exact hcomment.symm
      rw [hshared _ hcomment, hinside _ hcomment]
    · apply classify_congr
      rw [String.toList_append] at h ⊢
      exact fromFirstWord_of_afterLead?
        (afterLead?_of_afterComment? h fun hprefix => hstar (shared_prefix_comment h hprefix))

/-- The comment reads as a query, and the guard of the reading calls lets the deletion pass. -/
theorem classify_comment_shared :
    afterComment? ("/*/ SELECT */" ++ "DELETE FROM t").toList = some "DELETE FROM t".toList ∧
      classify "DELETE FROM t" = .delete ∧
      classify ("/*/ SELECT */" ++ "DELETE FROM t") = .select ∧
      validate ("/*/ SELECT */" ++ "DELETE FROM t") .select = .ok () := by
  have hcomment : afterComment? ("/*/ SELECT */" ++ "DELETE FROM t").toList =
      some "DELETE FROM t".toList := by decide
  have hkind : classify ("/*/ SELECT */" ++ "DELETE FROM t") = .select := by
    rw [(classify_comment _ _ hcomment).2 " SELECT */" (by decide)]
    decide +kernel
  refine ⟨hcomment, by decide +kernel, hkind, ?_⟩
  rw [validate, hkind]
  rfl

end SqlAccess.Sql
