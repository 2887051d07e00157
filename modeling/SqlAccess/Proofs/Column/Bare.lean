import SqlAccess.Proofs.Column.Name
import SqlAccess.Proofs.Text.SnakeWords

/-!
# Columns that are written bare

The bare parts of a column are written as they are, so they have to be plain words.  They are put in
snake case only after they have been read, and **nothing is checked after that**.  A plain word may
begin with an underscore and have a digit behind it (`_1`); in snake case the underscore is gone,
and what is left is a number.

**`Column.read_sql_iff` says that nothing else can happen**: a plain column is read back from what
it is written as exactly if no bare part of its name has a digit before its first letter.  Names
that are no identifiers cannot go wrong at all, since it is their snake case that is read.
-/

namespace SqlAccess

open Text (isSnakeChar isSnakeName snakeCase)

/-! ## Words in snake case -/

/-- Whether a digit is the first of the letters and digits of a word. -/
def startsAsNumber (word : String) : Bool :=
  (word.toList.find? Text.isAlphanumeric).any Char.isDigit

/-- Whether no bare part of a name, as it is read, has a digit before its first letter. -/
def Column.StartsAsWord (name : String) : Prop :=
  ∀ source word, Ident.read (Text.trim name) = .ok source → .bare word ∈ source.parts →
    startsAsNumber word = false

/-- **A plain word in snake case is a plain word** unless it begins with a digit. -/
lemma isPlainWord_snakeCase_iff {word : String} (h : isPlainWord word.toList = true)
    (hne : (snakeCase word).toList ≠ []) :
    isPlainWord (snakeCase word).toList = true ↔ startsAsNumber word = false := by
  have hascii : ∀ c ∈ word.toList, c.toNat < 128 := fun c hc =>
    toNat_lt_of_continuesWord (continuesWord_of_isPlainWord h c hc)
  obtain ⟨c, rest, hname⟩ := List.exists_cons_of_ne_nil hne
  have hfirst := Text.head?_snakeCase hascii
  rw [hname, List.head?_cons] at hfirst
  obtain ⟨d, hd, rfl⟩ := Option.map_eq_some_iff.mp hfirst.symm
  have hdigit : startsAsNumber word = d.toLower.isDigit := by
    have hsame := Text.ascii_forall (p := fun d => d.isDigit == d.toLower.isDigit) (by decide)
      (hascii d (List.mem_of_find?_eq_some hd))
    rw [startsAsNumber, hd, Option.any_some, beq_iff_eq.mp hsame]
  -- All other characters are right in any case, so the first decides.
  rw [hdigit]
  constructor
  · intro hplain
    obtain ⟨e, others, hsnake, hlower⟩ :=
      exists_lower_of_isSnakeName (isSnakeName_of_isPlainWord hplain)
    rw [hname] at hsnake
    obtain ⟨rfl, -⟩ := List.cons.inj hsnake
    have hletter := Text.ascii_forall (p := fun c => !c.isLower || !c.isDigit) (by decide)
      (Text.toNat_lt_of_isAlpha (Bool.or_eq_true_iff.mpr (.inr hlower)))
    simpa [hlower] using hletter
  · intro hletter
    exact isPlainWord_of_isSnakeName
      (Text.isSnakeName_snakeCase hname hletter fun e he => Text.snakeCase_ascii hascii he)

/-! ## Parts in snake case -/

/-- **A part in snake case is valid** if it is backticked or does not begin with a digit. -/
lemma Column.isValid_normalizePart_iff {name : String} {part stored : IdentPart}
    (h : normalizePart name part = .ok stored) (hpart : part.IsValid) :
    stored.IsValid ↔ ∀ word, part = .bare word → startsAsNumber word = false := by
  cases part with
  | bare word =>
      obtain ⟨hne, rfl⟩ := normalizePart_bare.mp h
      exact (isPlainWord_snakeCase_iff hpart hne).trans
        ⟨fun hletter _ hsame => IdentPart.bare.inj hsame ▸ hletter, fun hall => hall word rfl⟩
  | backticked word =>
      obtain rfl := normalizePart_backticked.mp h
      simp [hpart]

/-! ## Columns -/

/-- **A plain column is a valid identifier** exactly if no bare part of its name has a digit before
its first letter. -/
lemma Column.isValid_iff {name : String} {ident : Ident} (h : normalize name = .ok (.plain ident)) :
    ident.IsValid ↔ StartsAsWord name := by
  obtain ⟨-, source, hsource, hparts⟩ := normalize_eq_plain.mp h
  have hvalid := isValid_of_readIdent hsource
  -- A name that is an identifier is as good as its parts; any other is read from its snake case,
  -- which holds no part that snake case could change.
  rcases read_of_readIdent hsource with hread | ⟨hnone, hread⟩
  · have hpart {part stored} (hmem : part ∈ source.parts)
        (hstored : normalizePart (Text.trim name) part = .ok stored) :=
      isValid_normalizePart_iff hstored (hvalid.parts_valid part hmem)
    constructor
    · intro hident other word hother hword
      obtain rfl : source = other := Except.ok.inj (hread.symm.trans hother)
      obtain ⟨stored, hmem, hstored⟩ := exists_mem_of_forall₂ (normalizeParts_eq_ok.mp hparts) hword
      exact (hpart hword hstored).mp (hident.parts_valid stored hmem) word rfl
    · intro hstarts
      refine ⟨parts_ne_nil h, fun stored hstored => ?_⟩
      obtain ⟨part, hmem, hnormal⟩ := exists_of_normalizeParts hparts hstored
      exact (hpart hmem hnormal).mpr fun word hword => hstarts source word hread (hword ▸ hmem)
  · obtain ⟨rfl, hsnake⟩ := Ident.bare_of_read_snakeCase hread
    have hident := (@normalizeParts_bare _ [snakeCase (Text.trim name)] _).mp hparts
    rw [List.map_singleton, Text.snakeCase_of_isSnakeName hsnake] at hident
    have hsame : ident = ⟨[.bare (snakeCase (Text.trim name))]⟩ := congrArg Ident.mk hident.2
    exact iff_of_true (hsame ▸ hvalid) fun other _ hother => absurd hother (hnone other)

/-- The bare parts of a plain column are not empty and hold what snake case makes of ASCII. -/
lemma Column.mem_bare {name word : String} {ident : Ident} (h : normalize name = .ok (.plain ident))
    (hword : .bare word ∈ ident.parts) :
    word.toList ≠ [] ∧ ∀ c ∈ word.toList, c = '_' ∨ isSnakeChar c = true := by
  rcases mem_parts h hword with ⟨_, _, -, -, hsame⟩ | ⟨original, hplain, hne, hsame⟩
  · cases hsame
  · obtain rfl := IdentPart.bare.inj hsame
    exact ⟨hne, fun c hc => mem_snakeCase_of_isPlainWord hplain hc⟩

/-- Only the bare parts of a plain column can be at fault. -/
lemma Column.isValid_of_bare {name : String} {ident : Ident}
    (h : normalize name = .ok (.plain ident))
    (hbare : ∀ word, .bare word ∈ ident.parts → isPlainWord word.toList = true) :
    ident.IsValid := by
  refine ⟨parts_ne_nil h, fun part hpart => ?_⟩
  rcases mem_parts h hpart with ⟨source, word, hsource, hword, rfl⟩ | ⟨word, -, -, rfl⟩
  · exact (isValid_of_readIdent hsource).parts_valid _ hword
  · exact hbare _ hpart

/-- **What a plain column is written as is an identifier**, that of the column, exactly if no bare
part of its name has a digit before its first letter.  Its bare parts hold nothing that may not
stand in a plain word; what fails is only the first character. -/
theorem Column.read_sql_iff {name : String} {ident : Ident}
    (h : normalize name = .ok (.plain ident)) :
    (∀ word, .bare word ∈ ident.parts →
      word.toList ≠ [] ∧ ∀ c ∈ word.toList, c = '_' ∨ isSnakeChar c = true) ∧
    ((∀ word, .bare word ∈ ident.parts → isPlainWord word.toList = true) ↔ StartsAsWord name) ∧
    (Ident.read ident.sql = .ok ident ↔ StartsAsWord name) := by
  have hvalid := isValid_iff h
  refine ⟨fun word hword => mem_bare h hword, ?_, ?_⟩
  · rw [← hvalid]
    exact ⟨isValid_of_bare h, fun hident word hword => hident.parts_valid _ hword⟩
  · rw [← hvalid]
    exact ⟨Ident.isValid_of_read, Ident.IsValid.read_sql⟩

/-- A number behind an underscore becomes a number, and is refused when it is read. -/
theorem Column.read_sql_iff_of_underscore :
    let ident : Ident := ⟨[.bare "a", .bare "9b"]⟩
    Column.normalize "a._9b" = .ok (.plain ident) ∧ ident.sql = "a.9b" ∧
      Ident.read ident.sql ≠ .ok ident ∧ ¬Column.StartsAsWord "a._9b" := by
  intro ident
  have h : Column.normalize "a._9b" = .ok (.plain ident) := by decide +kernel
  have hread : Ident.read ident.sql ≠ .ok ident := by decide +kernel
  exact ⟨h, by decide +kernel, hread, fun hstarts => hread ((read_sql_iff h).2.2.mpr hstarts)⟩

end SqlAccess
