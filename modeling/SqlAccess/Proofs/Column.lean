import SqlAccess.Proofs.Column.Origin
import SqlAccess.Proofs.Literal
import SqlAccess.Proofs.Text.Search
import SqlAccess.Proofs.Text.SnakeCase

/-!
# Names are sealed

A valid identifier is sealed, bare or inside backticks: plain words are calm, and whatever stands
inside backticks stays there.

A column arrives as any text at all, and is sealed once it is normalised.  Either the text is an
identifier, or its snake case is; what the bare parts are put in snake case for once more does not
matter, since that makes up no character but the underscore (`Text.mem_snakeCase`).

**A place inside a JSON document is the exception**: behind the arrow stands what the caller wrote.
-/

namespace SqlAccess

open Sql

/-! ## Parts and identifiers -/

/-- Whether a part may be written as it is: inside backticks, or because it is calm. -/
def IdentPart.IsCalm : IdentPart → Prop
  | .bare name => Calm name.toList
  | .backticked _ => True

lemma calm_of_isPlainWord {word : List Char} (h : isPlainWord word = true) : Calm word :=
  fun c hc => isCalm_of_all (by decide) (continuesWord_of_isPlainWord h c hc)

lemma IdentPart.IsValid.isCalm {part : IdentPart} (h : part.IsValid) : part.IsCalm := by
  cases part with
  | bare name => exact calm_of_isPlainWord h
  | backticked name => trivial

lemma IdentPart.IsCalm.sealed {part : IdentPart} (h : part.IsCalm) (always : Bool) :
    Sealed (part.sql always).toList := by
  unfold IdentPart.sql
  split_ifs with hquoted
  · rw [backtickedText, String.toList_ofList]
    exact sealed_backticked _
  · cases part with
    | bare name => exact .ofCalm h
    | backticked name => simp [IdentPart.isBackticked] at hquoted

lemma sealed_parts {parts : List IdentPart} (h : ∀ part ∈ parts, part.IsCalm) (always : Bool) :
    Sealed (".".intercalate (parts.map (IdentPart.sql always))).toList := by
  rw [String.toList_intercalate, List.map_map]
  refine .intercalate (by simp) (by decide) fun text htext => ?_
  obtain ⟨part, hpart, rfl⟩ := List.mem_map.mp htext
  exact (h part hpart).sealed always

/-- **A valid identifier is sealed.** -/
theorem Ident.IsValid.sealed {ident : Ident} (h : ident.IsValid) : Sealed ident.sql.toList :=
  sealed_parts (fun part hpart => (h.parts_valid part hpart).isCalm) false

/-! ## Columns -/

/-- Plain words are ASCII. -/
lemma toNat_lt_of_continuesWord {c : Char} (h : continuesWord c = true) : c.toNat < 128 := by
  have hcases : (c = '_' ∨ c = '$') ∨ c.isAlpha = true ∨ c.isDigit = true := by
    simpa [continuesWord, Char.isAlphanum] using h
  rcases hcases with (rfl | rfl) | hletter | hdigit
  · decide
  · decide
  · exact Text.toNat_lt_of_isAlpha hletter
  · exact Text.ascii_of_le (of_decide_eq_true (Bool.and_eq_true_iff.mp hdigit).2) (by decide)

lemma isCalm_lowerOf {c d : Char} (h : continuesWord c = true) (hd : d ∈ Text.lowerOf c) :
    isCalm d = true := by
  have hc := toNat_lt_of_continuesWord h
  have hlower := Text.ascii_forall (p := fun c => !continuesWord c || isCalm c.toLower)
    (by decide) hc
  rw [Text.lowerOf, if_pos hc, List.mem_singleton] at hd
  simpa [h, hd] using hlower

lemma calm_snakeCase {word : String} (h : isPlainWord word.toList = true) :
    Calm (Text.snakeCase word).toList := by
  intro c hc
  rcases Text.mem_snakeCase hc with rfl | rfl | ⟨d, hd, -, hc⟩
  · decide
  · decide
  · exact isCalm_lowerOf (continuesWord_of_isPlainWord h d hd) hc

/-- Whether the name of a column reaches into a JSON document. -/
def holdsArrow (name : String) : Bool :=
  Text.holdsMark arrow name.toList

/-- Without an arrow, a column is an identifier whose parts may be written as they are. -/
lemma Column.plain_of_normalize {name : String} {column : Column}
    (h : normalize name = .ok column) (harrow : holdsArrow name = false) :
    ∃ ident, column = .plain ident ∧ ∀ part ∈ ident.parts, part.IsCalm := by
  cases column with
  | plain ident =>
      refine ⟨ident, rfl, fun part hpart => ?_⟩
      rcases mem_parts h hpart with ⟨source, word, -, -, rfl⟩ | ⟨word, hword, -, rfl⟩
      · trivial
      · exact calm_snakeCase hword
  | path head accessor =>
      obtain ⟨before, after, hsplit, -⟩ := normalize_eq_path.mp h
      have hnone : Text.splitAtMark? arrow (Text.trimList name.toList) = none := by
        rw [Text.splitAtMark?_eq_none]
        intro hmark
        have hinfix := hmark.trans (Text.trimList_isInfix name.toList)
        simp [holdsArrow, Text.holdsMark_iff.mpr hinfix] at harrow
      simp [hnone] at hsplit

/-- **A normalised column is sealed** in both of its forms, unless it reaches into a document. -/
theorem Column.sealed_of_normalize {name : String} {column : Column}
    (h : normalize name = .ok column) (harrow : holdsArrow name = false) :
    Sealed column.sql.toList ∧ Sealed column.quotedSql.toList := by
  obtain ⟨ident, rfl, hcalm⟩ := plain_of_normalize h harrow
  exact ⟨sealed_parts hcalm false, sealed_parts hcalm true⟩

end SqlAccess
