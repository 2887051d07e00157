import SqlAccess.Column
import SqlAccess.Proofs.Ident.Valid

/-!
# Where columns come from

Two kinds of text name a column.  A text with an arrow names a place in a document
(`Column.normalize_eq_path`).  Any other is read as an identifier, as it is or else in snake case, and
the parts of that identifier are put in snake case one by one (`Column.normalize_eq_plain`,
`Column.normalizeParts_eq_ok`).

These are equivalences, so **whatever is known of a column is known through one of them**; that is
how all else about columns is proved.
-/

namespace SqlAccess

/-! ## Parts -/

/-- What a bare part is put into is its snake case, which is not empty. -/
lemma Column.normalizePart_bare {name word : String} {stored : IdentPart} :
    normalizePart name (.bare word) = .ok stored ↔
      (Text.snakeCase word).toList ≠ [] ∧ stored = .bare (Text.snakeCase word) := by
  have hempty : (Text.snakeCase word).isEmpty = true ↔ (Text.snakeCase word).toList = [] := by
    rw [String.isEmpty_iff, String.toList_eq_nil_iff]
  simp only [normalizePart, ne_eq, ← hempty]
  split_ifs with hnone
  · simp [hnone]
  · simp [hnone, eq_comm]

lemma Column.normalizePart_backticked {name word : String} {stored : IdentPart} :
    normalizePart name (.backticked word) = .ok stored ↔ stored = .backticked word := by
  simp [normalizePart, eq_comm]

/-- **The parts are put in snake case one by one.** -/
lemma Column.normalizeParts_eq_ok {name : String} {parts normal : List IdentPart} :
    normalizeParts name parts = .ok normal ↔
      List.Forall₂ (fun part stored => normalizePart name part = .ok stored) parts normal :=
  members_eq_ok (normalizePart name) (normalizeParts name) rfl fun _ _ => rfl

/-- Every part of a column comes from a part that was read. -/
lemma Column.exists_of_normalizeParts {name : String} {parts normal : List IdentPart}
    (h : normalizeParts name parts = .ok normal) {stored : IdentPart} (hstored : stored ∈ normal) :
    ∃ part ∈ parts, normalizePart name part = .ok stored :=
  exists_mem_of_forall₂ (normalizeParts_eq_ok.mp h).flip hstored

/-! ## Readings -/

/-- What is read for a column is the name as it is, or else its snake case. -/
lemma Column.read_of_readIdent {name : String} {ident : Ident} (h : readIdent name = .ok ident) :
    Ident.read name = .ok ident ∨
      (∀ other, Ident.read name ≠ .ok other) ∧ Ident.read (Text.snakeCase name) = .ok ident := by
  unfold readIdent at h
  split at h
  · rename_i hread
    obtain rfl := Except.ok.inj h
    exact .inl hread
  · rename_i hread
    exact .inr ⟨fun other => by simp [hread], mapError_eq_ok.mp h⟩

/-- The identifier that a column name stands for is valid, whether it is the name or its snake
case. -/
lemma Column.isValid_of_readIdent {name : String} {ident : Ident}
    (h : readIdent name = .ok ident) : ident.IsValid := by
  rcases read_of_readIdent h with hread | ⟨-, hread⟩
  · exact Ident.isValid_of_read hread
  · exact Ident.isValid_of_read hread

/-! ## Columns -/

/-- **Where a plain column comes from**: a text without an arrow is read, as it is or in snake case,
and the parts are put in snake case. -/
theorem Column.normalize_eq_plain {name : String} {ident : Ident} :
    normalize name = .ok (.plain ident) ↔
      Text.splitAtMark? arrow (Text.trimList name.toList) = none ∧
        ∃ source, readIdent (Text.trim name) = .ok source ∧
          normalizeParts (Text.trim name) source.parts = .ok ident.parts := by
  cases hsplit : Text.splitAtMark? arrow (Text.trimList name.toList) with
  | some split =>
      simp only [normalize, hsplit, reduceCtorEq, false_and, iff_false]
      split_ifs <;> simp
  | none =>
      simp only [normalize, hsplit, true_and]
      rw [bind_eq_ok]
      refine exists_congr fun source => and_congr_right fun _ => ?_
      rw [bind_eq_ok]
      constructor
      · rintro ⟨parts, hparts, hplain⟩
        obtain rfl := Column.plain.inj (Except.ok.inj hplain)
        exact hparts
      · exact fun hparts => ⟨_, hparts, rfl⟩

/-- A plain column has a part. -/
lemma Column.parts_ne_nil {name : String} {ident : Ident}
    (h : normalize name = .ok (.plain ident)) : ident.parts ≠ [] := by
  obtain ⟨-, source, hsource, hparts⟩ := normalize_eq_plain.mp h
  have hlength := (normalizeParts_eq_ok.mp hparts).length_eq
  intro hnil
  rw [hnil, List.length_nil, List.length_eq_zero_iff] at hlength
  exact (isValid_of_readIdent hsource).parts_ne_nil hlength

/-- A part of a plain column is a backticked part that was read, or the snake case of a plain word.
-/
lemma Column.mem_parts {name : String} {ident : Ident} (h : normalize name = .ok (.plain ident))
    {part : IdentPart} (hpart : part ∈ ident.parts) :
    (∃ source word, readIdent (Text.trim name) = .ok source ∧ .backticked word ∈ source.parts ∧
      part = .backticked word) ∨
    ∃ word, isPlainWord word.toList = true ∧ (Text.snakeCase word).toList ≠ [] ∧
      part = .bare (Text.snakeCase word) := by
  obtain ⟨-, source, hsource, hparts⟩ := normalize_eq_plain.mp h
  obtain ⟨original, horiginal, hnormal⟩ := exists_of_normalizeParts hparts hpart
  cases original with
  | backticked word =>
      exact .inl ⟨source, word, hsource, horiginal, normalizePart_backticked.mp hnormal⟩
  | bare word =>
      obtain ⟨hne, rfl⟩ := normalizePart_bare.mp hnormal
      exact .inr ⟨word, (isValid_of_readIdent hsource).parts_valid _ horiginal, hne, rfl⟩

/-- **Where a column that reaches into a document comes from**: a text with an arrow, and in front of
the first more than a pair of backticks. -/
theorem Column.normalize_eq_path {name head accessor : String} :
    normalize name = .ok (.path head accessor) ↔
      ∃ before after, Text.splitAtMark? arrow (Text.trimList name.toList) = some (before, after) ∧
        head.toList = withoutBackticks (Text.trimList before) ∧ head.toList ≠ [] ∧
        accessor.toList = arrow ++ after := by
  cases hsplit : Text.splitAtMark? arrow (Text.trimList name.toList) with
  | some split =>
      obtain ⟨before, after⟩ := split
      simp only [normalize, hsplit, Option.some.injEq, Prod.mk.injEq]
      constructor
      · intro h
        split_ifs at h with hempty
        obtain ⟨rfl, rfl⟩ := Column.path.inj (Except.ok.inj h)
        simp only [String.toList_ofList]
        exact ⟨before, after, ⟨rfl, rfl⟩, rfl, by simpa using hempty, rfl⟩
      · rintro ⟨_, _, ⟨rfl, rfl⟩, hhead, hne, haccessor⟩
        rw [hhead] at hne
        rw [if_neg (by simpa using hne), ← hhead, ← haccessor, String.ofList_toList,
          String.ofList_toList]
  | none =>
      simp only [normalize, hsplit, reduceCtorEq, false_and, exists_false, iff_false]
      intro h
      obtain ⟨_, -, h⟩ := bind_eq_ok.mp h
      obtain ⟨_, -, h⟩ := bind_eq_ok.mp h
      cases h

end SqlAccess
