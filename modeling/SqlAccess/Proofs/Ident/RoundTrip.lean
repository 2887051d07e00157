import SqlAccess.Proofs.Ident.Valid
import SqlAccess.Proofs.Text.SnakeCase

/-!
# Reading and writing identifiers

A valid identifier and its text determine each other: **`Ident.read_eq_ok_iff`** says that a text is
read as an identifier exactly if the identifier is valid and written so.  Reading accepts no second
spelling of an identifier, therefore, and nothing that is not the spelling of one.

* From a text to an identifier and back: the segments of a text with the dots between them are the
  text (`intercalate_splitSegments`), and a segment is what its part is written as
  (`sql_of_readSegment`).
* From an identifier to a text and back: a written part is passed over as a whole when segments are
  split (`passes_sql`), whatever dots and backticks its name holds.  `Passes` says how splitting
  goes over a piece of text; a text is passed over piece by piece (`Passes.append`).
-/

namespace SqlAccess

/-! ## From a text to an identifier -/

lemma intercalate_consFirst (c : Char) {segments : List (List Char)} (h : segments ≠ []) :
    ['.'].intercalate (consFirst c segments) = c :: ['.'].intercalate segments := by
  cases segments with
  | nil => exact absurd rfl h
  | cons segment segments => cases segments <;> simp [consFirst, List.intercalate_cons_cons]

/-- **Nothing is lost in splitting**: with the dots between them the segments are the text. -/
theorem intercalate_splitSegments {inside : Bool} {text : List Char} {segments : List (List Char)}
    (h : splitSegments inside text = some segments) : ['.'].intercalate segments = text := by
  fun_induction splitSegments inside text generalizing segments with
  | case1 => simp at h
  | case2 =>
      obtain rfl : [[]] = segments := by simpa using h
      rfl
  | case3 inside c text hdot ih =>
      obtain ⟨rest, hrest, rfl⟩ := Option.map_eq_some_iff.mp h
      obtain ⟨first, others, rfl⟩ := List.exists_cons_of_ne_nil (splitSegments_ne_nil hrest)
      rw [List.intercalate_cons_cons, ih hrest, hdot.1]
      rfl
  | case4 inside c text _ ih =>
      obtain ⟨rest, hrest, rfl⟩ := Option.map_eq_some_iff.mp h
      rw [intercalate_consFirst c (splitSegments_ne_nil hrest), ih hrest]

/-- Only a text with every backtick doubled stands for a name. -/
lemma doubleBackticks_of_undoubleBackticks {text name : List Char}
    (h : undoubleBackticks text = some name) : doubleBackticks name = text := by
  fun_induction undoubleBackticks text generalizing name with
  | case1 =>
      obtain rfl : [] = name := by simpa using h
      rfl
  | case2 => simp at h
  | case3 c hc =>
      obtain rfl : [c] = name := by simpa using h
      simp [doubleBackticks, hc]
  | case4 name' ih =>
      obtain ⟨rest, hrest, rfl⟩ := Option.map_eq_some_iff.mp h
      simp [doubleBackticks, ih hrest]
  | case5 => simp at h
  | case6 c d text hc ih =>
      obtain ⟨rest, hrest, rfl⟩ := Option.map_eq_some_iff.mp h
      simp [doubleBackticks, hc, ih hrest]

/-- A segment is what the part that is read from it is written as. -/
theorem sql_of_readSegment {segment : List Char} {part : IdentPart}
    (h : readSegment segment = .ok part) : (part.sql false).toList = segment := by
  unfold readSegment at h
  split at h
  · simp at h
  · rename_i c rest
    split_ifs at h with hc hlast hempty hword
    · split at h
      · simp at h
      · rename_i name hname
        obtain rfl := Except.ok.inj h
        obtain ⟨body, rfl⟩ := List.getLast?_eq_some_iff.mp (not_not.mp hlast)
        rw [List.dropLast_concat] at hname
        have hbody := doubleBackticks_of_undoubleBackticks hname
        simp [IdentPart.sql, IdentPart.isBackticked, IdentPart.name, backtickedText, backticked,
          hbody, hc]
    · obtain rfl := Except.ok.inj h
      simp [IdentPart.sql, IdentPart.isBackticked, IdentPart.name]

lemma sql_of_readSegments {segments : List (List Char)} {parts : List IdentPart}
    (h : readSegments segments = .ok parts) :
    parts.map (fun part => (part.sql false).toList) = segments := by
  induction segments generalizing parts with
  | nil =>
      obtain rfl := Except.ok.inj h
      rfl
  | cons segment segments ih =>
      obtain ⟨part, hpart, h⟩ := bind_eq_ok.mp h
      obtain ⟨others, hothers, h⟩ := bind_eq_ok.mp h
      obtain rfl := Except.ok.inj h
      rw [List.map_cons, sql_of_readSegment hpart, ih hothers]

lemma Ident.toList_sql (ident : Ident) :
    ident.sql.toList = ['.'].intercalate (ident.parts.map fun part => (part.sql false).toList) := by
  rw [Ident.sql, String.toList_intercalate, List.map_map]
  rfl

/-- **What is read is written as it was.** -/
theorem Ident.sql_of_read {s : String} {ident : Ident} (h : Ident.read s = .ok ident) :
    ident.sql = s := by
  obtain ⟨_, -, h⟩ := bind_eq_ok.mp h
  split at h
  · simp at h
  · rename_i segments hsegments
    obtain ⟨parts, hparts, h⟩ := bind_eq_ok.mp h
    obtain rfl := Except.ok.inj h
    rw [← String.toList_inj, Ident.toList_sql, sql_of_readSegments hparts,
      intercalate_splitSegments hsegments]

/-! ## Passing over pieces of a text -/

/-- Splitting goes over a piece of text without ending a segment in it, from outside or inside
backticks to outside or inside. -/
def Passes (before after : Bool) (piece : List Char) : Prop :=
  ∀ rest, splitSegments before (piece ++ rest) =
    (splitSegments after rest).map fun segments => piece.foldr consFirst segments

lemma Passes.nil (inside : Bool) : Passes inside inside [] := by
  intro rest
  simp

lemma Passes.append {before between after : Bool} {piece next : List Char}
    (hpiece : Passes before between piece) (hnext : Passes between after next) :
    Passes before after (piece ++ next) := by
  intro rest
  rw [List.append_assoc, hpiece, hnext, Option.map_map]
  simp [Function.comp_def]

lemma passes_backtick (inside : Bool) : Passes inside (!inside) [backtick] := by
  intro rest
  have hdot : ¬(backtick = '.' ∧ inside = false) := by simp [backtick]
  rw [List.singleton_append, splitSegments, if_neg hdot, if_pos rfl]
  rfl

/-- Inside backticks everything else is passed over, and outside of them everything but a dot. -/
lemma passes_char {inside : Bool} {c : Char} (hc : c ≠ backtick)
    (hdot : ¬(c = '.' ∧ inside = false)) : Passes inside inside [c] := by
  intro rest
  rw [List.singleton_append, splitSegments, if_neg hdot, if_neg hc]
  rfl

/-- A doubled backtick leaves and enters again. -/
lemma passes_doubleBackticks (name : List Char) : Passes true true (doubleBackticks name) := by
  induction name with
  | nil => exact Passes.nil true
  | cons c name ih =>
      rw [doubleBackticks]
      split_ifs with hc
      · subst hc
        exact (passes_backtick true).append ((passes_backtick false).append ih)
      · exact (passes_char hc (by simp)).append ih

lemma passes_backticked (name : List Char) : Passes false false (backticked name) :=
  (passes_backtick false).append ((passes_doubleBackticks name).append (passes_backtick true))

lemma ne_of_continuesWord {c d : Char} (h : continuesWord c = true)
    (hd : continuesWord d = false) : c ≠ d := by
  rintro rfl
  simp [h] at hd

lemma passes_word {word : List Char} (h : ∀ c ∈ word, continuesWord c = true) :
    Passes false false word := by
  induction word with
  | nil => exact Passes.nil false
  | cons c word ih =>
      obtain ⟨hc, hword⟩ := List.forall_mem_cons.mp h
      have hbacktick : c ≠ backtick := ne_of_continuesWord hc (by decide)
      have hdot : c ≠ '.' := ne_of_continuesWord hc (by decide)
      exact (passes_char hbacktick (by simp [hdot])).append (ih hword)

/-- A text that is passed over is the first segment if a dot follows, and the only one at the end.
-/
lemma splitSegments_intercalate {segments : List (List Char)} (hne : segments ≠ [])
    (h : ∀ segment ∈ segments, Passes false false segment) :
    splitSegments false (['.'].intercalate segments) = some segments := by
  have hfirst : ∀ segment : List Char, ∀ others,
      segment.foldr consFirst ([] :: others) = segment :: others := by
    intro segment others
    induction segment with
    | nil => rfl
    | cons c segment ih => rw [List.foldr_cons, ih, consFirst]
  induction segments with
  | nil => exact absurd rfl hne
  | cons segment segments ih =>
      obtain ⟨hsegment, hothers⟩ := List.forall_mem_cons.mp h
      cases segments with
      | nil =>
          have hsplit := hsegment []
          rw [List.append_nil, splitSegments] at hsplit
          rw [List.intercalate_singleton, hsplit, Option.map_some, hfirst]
      | cons next segments =>
          rw [List.intercalate_cons_cons, List.append_assoc, hsegment, List.singleton_append,
            splitSegments, if_pos ⟨rfl, rfl⟩, ih (by simp) hothers]
          rw [Option.map_some, Option.map_some, hfirst]

/-! ## From an identifier to a text -/

/-- Doubled backticks stand for the name. -/
theorem undoubleBackticks_doubleBackticks (name : List Char) :
    undoubleBackticks (doubleBackticks name) = some name := by
  induction name with
  | nil => rfl
  | cons c name ih =>
      rw [doubleBackticks]
      split_ifs with hc
      · subst hc
        simp [undoubleBackticks, ih]
      · cases hrest : doubleBackticks name with
        | nil =>
            rw [hrest, undoubleBackticks] at ih
            obtain rfl : [] = name := by simpa using ih
            simp [undoubleBackticks, hc]
        | cons d rest =>
            rw [hrest] at ih
            simp [undoubleBackticks, hc, ih]

lemma doubleBackticks_ne_nil {name : List Char} (h : name ≠ []) : doubleBackticks name ≠ [] := by
  cases name with
  | nil => exact absurd rfl h
  | cons c name =>
      rw [doubleBackticks]
      split_ifs <;> simp

lemma mem_doubleBackticks {name : List Char} {c : Char} (h : c ∈ doubleBackticks name) :
    c ∈ name := by
  induction name with
  | nil => exact h
  | cons d name ih =>
      rw [doubleBackticks] at h
      split_ifs at h <;> simp only [List.mem_cons] at h ⊢ <;> tauto

/-- **A valid part is read back** from the segment that it is written as. -/
theorem IdentPart.IsValid.readSegment_sql {part : IdentPart} (h : part.IsValid) :
    readSegment (part.sql false).toList = .ok part := by
  cases part with
  | bare name =>
      have hword : isPlainWord name.toList = true := h
      have hcontinues := continuesWord_of_isPlainWord hword
      show readSegment name.toList = .ok (.bare name)
      unfold readSegment
      split
      · rename_i hname
        simp [hname, isPlainWord] at hword
      · rename_i c rest hname
        have hc : c ≠ backtick :=
          ne_of_continuesWord (hcontinues c (by simp [hname])) (by decide)
        rw [if_neg hc, if_pos hword, String.ofList_toList]
  | backticked name =>
      show readSegment (backtickedText name).toList = .ok (.backticked name)
      rw [backtickedText, String.toList_ofList]
      show readSegment (backtick :: (doubleBackticks name.toList ++ [backtick])) = _
      have hbody : (doubleBackticks name.toList).isEmpty = false := by
        simpa using doubleBackticks_ne_nil h.1
      simp [readSegment, hbody, undoubleBackticks_doubleBackticks]

lemma readSegments_sql {parts : List IdentPart} (h : ∀ part ∈ parts, part.IsValid) :
    readSegments (parts.map fun part => (part.sql false).toList) = .ok parts := by
  induction parts with
  | nil => rfl
  | cons part parts ih =>
      obtain ⟨hpart, hparts⟩ := List.forall_mem_cons.mp h
      rw [List.map_cons, readSegments, hpart.readSegment_sql, ih hparts]
      rfl

/-- A valid part is passed over as it is written, with the dots and backticks of its name. -/
lemma IdentPart.IsValid.passes_sql {part : IdentPart} (h : part.IsValid) :
    Passes false false (part.sql false).toList := by
  cases part with
  | bare name => exact passes_word (continuesWord_of_isPlainWord h)
  | backticked name =>
      show Passes false false (backtickedText name).toList
      rw [backtickedText, String.toList_ofList]
      exact passes_backticked _

lemma IdentPart.IsValid.sql_ne_nil {part : IdentPart} (h : part.IsValid) :
    (part.sql false).toList ≠ [] := by
  intro hnil
  have hread := h.readSegment_sql
  simp [hnil, readSegment] at hread

lemma IdentPart.IsValid.nul_not_mem_sql {part : IdentPart} (h : part.IsValid) :
    '\x00' ∉ (part.sql false).toList := by
  cases part with
  | bare name =>
      intro hmem
      have hnul := continuesWord_of_isPlainWord h _ hmem
      exact absurd hnul (by decide)
  | backticked name =>
      show '\x00' ∉ (backtickedText name).toList
      rw [backtickedText, String.toList_ofList, SqlAccess.backticked]
      intro hmem
      have hname : '\x00' ∈ doubleBackticks name.toList := by simpa [backtick] using hmem
      exact h.2 (mem_doubleBackticks hname)

/-- What a valid identifier is written as may be a name. -/
lemma Ident.IsValid.checkName_sql {ident : Ident} (h : ident.IsValid) :
    checkName ident.sql = .ok () := by
  have hnonempty : ident.sql.isEmpty = false := by
    obtain ⟨part, parts, hparts⟩ := List.exists_cons_of_ne_nil h.parts_ne_nil
    have hpart := (h.parts_valid part (by simp [hparts])).sql_ne_nil
    rw [← Bool.not_eq_true, String.isEmpty_iff, ← String.toList_inj, Ident.toList_sql, hparts]
    cases parts <;> simp [hpart]
  have hnul : '\x00' ∉ ident.sql.toList := by
    rw [Ident.toList_sql]
    intro hmem
    rcases Text.mem_intercalate hmem with hdot | ⟨text, htext, hmem⟩
    · simp at hdot
    · obtain ⟨part, hpart, rfl⟩ := List.mem_map.mp htext
      exact (h.parts_valid part hpart).nul_not_mem_sql hmem
  simp [checkName, hnonempty, hnul]

/-- **A valid identifier is read back** from what it is written as. -/
theorem Ident.IsValid.read_sql {ident : Ident} (h : ident.IsValid) :
    Ident.read ident.sql = .ok ident := by
  have hsplit : splitSegments false ident.sql.toList =
      some (ident.parts.map fun part => (part.sql false).toList) := by
    rw [Ident.toList_sql]
    refine splitSegments_intercalate (by simpa using h.parts_ne_nil) fun segment hsegment => ?_
    obtain ⟨part, hpart, rfl⟩ := List.mem_map.mp hsegment
    exact (h.parts_valid part hpart).passes_sql
  simp only [Ident.read, h.checkName_sql, hsplit, readSegments_sql h.parts_valid]
  rfl

/-! ## Identifiers inside backticks -/

/-- The identifier of the same names with every part inside backticks. -/
def Ident.allBackticked (ident : Ident) : Ident :=
  ⟨ident.parts.map fun part => .backticked part.name⟩

/-- Writing every part inside backticks is writing the identifier whose parts are all backticked. -/
lemma Ident.quotedSql_eq (ident : Ident) : ident.quotedSql = ident.allBackticked.sql := by
  rw [Ident.quotedSql, Ident.sql, Ident.allBackticked, List.map_map]
  rfl

/-- Plain words may stand inside backticks. -/
lemma Ident.IsValid.allBackticked {ident : Ident} (h : ident.IsValid) :
    ident.allBackticked.IsValid := by
  refine ⟨by simpa [Ident.allBackticked] using h.parts_ne_nil, fun part hpart => ?_⟩
  obtain ⟨original, horiginal, rfl⟩ := List.mem_map.mp hpart
  have hvalid := h.parts_valid original horiginal
  cases original with
  | backticked name => exact hvalid
  | bare name => exact ⟨hvalid.sql_ne_nil, hvalid.nul_not_mem_sql⟩

/-- **Reading and writing identifiers are inverse to each other.**  A text is read as an identifier
exactly if the identifier is valid and written so; and what a valid identifier is written as inside
backticks is read as the same names, all backticked. -/
theorem Ident.read_eq_ok_iff (ident : Ident) :
    (∀ s, Ident.read s = .ok ident ↔ ident.IsValid ∧ s = ident.sql) ∧
      (ident.IsValid →
        Ident.read ident.quotedSql = .ok ⟨ident.parts.map fun part => .backticked part.name⟩) := by
  refine ⟨fun s => ⟨fun hread => ?_, ?_⟩, fun hvalid => ?_⟩
  · exact ⟨Ident.isValid_of_read hread, (Ident.sql_of_read hread).symm⟩
  · rintro ⟨hvalid, rfl⟩
    exact hvalid.read_sql
  · rw [Ident.quotedSql_eq]
    exact hvalid.allBackticked.read_sql

/-- The identifier with a backtick and a dot in one of its names, which is written in one way. -/
theorem Ident.read_eq_ok_iff_of_marks :
    let ident : Ident := ⟨[.bare "app", .backticked "a`.b"]⟩
    ident.IsValid ∧ ident.sql = "app.`a``.b`" ∧
      Ident.read "app.`a``.b`" = .ok ident ∧ Ident.read "`app`.`a``.b`" ≠ .ok ident ∧
      Ident.read ident.quotedSql = .ok ⟨[.backticked "app", .backticked "a`.b"]⟩ := by
  intro ident
  have hvalid : ident.IsValid := ⟨by decide, by decide⟩
  have hsql : ident.sql = "app.`a``.b`" := by decide
  obtain ⟨hread, hquoted⟩ := Ident.read_eq_ok_iff ident
  refine ⟨hvalid, hsql, (hread _).mpr ⟨hvalid, hsql.symm⟩, fun hother => ?_, hquoted hvalid⟩
  have hspelling := ((hread _).mp hother).2
  rw [hsql] at hspelling
  exact absurd hspelling (by decide)

end SqlAccess
