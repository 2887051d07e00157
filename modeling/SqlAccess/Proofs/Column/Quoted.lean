import Mathlib.Data.List.TakeWhile
import SqlAccess.Proofs.Column.Name

/-!
# Columns that are quoted and named again

A column written with its name inside backticks is a name of a column itself.  A plain column stays
what it is when it is named so, and may be quoted as often as one likes.

**A column inside a document does not.**  The backticks around a name in front of an arrow are taken
off, but those inside it stay doubled as they were written, and quoting doubles them once more
(`Column.normalize_quotedSql`).  For the same reason a backticked name that holds a backtick stands
for one column by itself and for another in front of an arrow.  Without a backtick in the name there
is no difference.
-/

namespace SqlAccess

/-! ## Doubled backticks -/

/-- Only a name without backticks is what it is with its backticks doubled. -/
lemma doubleBackticks_eq_self_iff {name : List Char} :
    doubleBackticks name = name ↔ backtick ∉ name := by
  induction name with
  | nil => simp [doubleBackticks]
  | cons c name ih =>
      have hlength := length_le_doubleBackticks name
      rw [doubleBackticks, List.mem_cons, not_or]
      split_ifs with hc
      · simp only [hc, not_true_eq_false, false_and, iff_false]
        intro hsame
        have hshort := congrArg List.length hsame
        simp only [List.length_cons] at hshort
        omega
      · rw [List.cons.injEq, ih]
        simp [Ne.symm hc]

lemma doubleBackticks_injective : Function.Injective doubleBackticks := by
  intro name other hsame
  have hname := undoubleBackticks_doubleBackticks name
  rw [hsame, undoubleBackticks_doubleBackticks] at hname
  exact (Option.some.inj hname).symm

lemma backtickedText_injective : Function.Injective backtickedText := by
  intro name other hsame
  have hinside := String.ofList_injective hsame
  simp only [backticked, List.append_left_inj, List.cons.injEq, true_and] at hinside
  exact String.toList_injective (doubleBackticks_injective hinside)

lemma ofList_doubleBackticks_eq_iff {name : String} :
    String.ofList (doubleBackticks name.toList) = name ↔ backtick ∉ name.toList := by
  rw [← String.toList_inj, String.toList_ofList, doubleBackticks_eq_self_iff]

/-- A prefix without backticks is as it was before they were doubled. -/
lemma prefix_of_prefix_doubleBackticks {mark name : List Char} (hmark : backtick ∉ mark)
    (h : mark <+: doubleBackticks name) : mark <+: name := by
  induction name generalizing mark with
  | nil => exact h
  | cons c name ih =>
      cases mark with
      | nil => exact List.nil_prefix
      | cons d mark =>
          rw [List.mem_cons, not_or] at hmark
          rw [doubleBackticks] at h
          split_ifs at h with hc
          · exact absurd ((List.cons_prefix_cons.mp h).1.trans hc).symm hmark.1
          · obtain ⟨rfl, hrest⟩ := List.cons_prefix_cons.mp h
            exact List.cons_prefix_cons.mpr ⟨rfl, ih hmark.2 hrest⟩

lemma infix_of_infix_doubleBackticks {mark name : List Char} (hmark : backtick ∉ mark)
    (h : mark <:+: doubleBackticks name) : mark <:+: name := by
  induction name with
  | nil => exact h
  | cons c name ih =>
      have hwhole := @prefix_of_prefix_doubleBackticks mark (c :: name) hmark
      rw [doubleBackticks] at h hwhole
      split_ifs at h hwhole with hc
      · have hcut {text : List Char} (htext : mark <:+: c :: text) : mark <:+: text :=
          ((@Text.infix_cut mark [] text c (hc ▸ hmark)).mp htext).elim
            (fun hnil => List.infix_nil.mp hnil ▸ List.nil_infix) id
        exact List.infix_cons (ih (hcut (hcut h)))
      · rcases List.infix_cons_iff.mp h with hprefix | hinfix
        · exact (hwhole hprefix).isInfix
        · exact List.infix_cons (ih hinfix)

/-! ## Names inside backticks -/

/-- The backticks around a name can be taken off, which leaves it with its backticks doubled. -/
lemma withoutBackticks_backticked (name : List Char) :
    withoutBackticks (backticked name) = doubleBackticks name := by
  simp [withoutBackticks, backticked]

lemma isBlank_backtick : Text.isBlank backtick = false := by decide

lemma trimList_backticked_append (name behind : List Char) :
    Text.trimList (backticked name ++ behind) =
      backticked name ++ (Text.dropBlanks behind.reverse).reverse := by
  have htrim := Text.trimList_append isBlank_backtick isBlank_backtick (doubleBackticks name) behind
  simpa [backticked] using htrim

/-- An arrow that stands inside backticks stands in the name. -/
lemma arrow_infix_of_backticked {name : List Char} (h : arrow <:+: backticked name) :
    arrow <:+: name := by
  have hmark : backtick ∉ arrow := by decide
  have hinside : arrow <:+: doubleBackticks name ++ backtick :: [] := by
    refine ((@Text.infix_cut _ [] _ _ hmark).mp h).resolve_left fun hnil => ?_
    exact absurd (List.infix_nil.mp hnil) (by decide)
  rcases (Text.infix_cut hmark).mp hinside with hname | hnil
  · exact infix_of_infix_doubleBackticks hmark hname
  · exact absurd (List.infix_nil.mp hnil) (by decide)

/-- A text is split at an arrow if there is none in front of it. -/
lemma splitAtMark?_arrow {before : List Char} (h : ¬arrow <:+: before) (after : List Char) :
    Text.splitAtMark? arrow (before ++ (arrow ++ after)) = some (before, after) := by
  induction before with
  | nil => rfl
  | cons c before ih =>
      rw [List.infix_cons_iff, not_or] at h
      have hnone : Text.dropLead? arrow (c :: (before ++ (arrow ++ after))) = none := by
        rw [← Option.not_isSome_iff_eq_none, Text.dropLead?_isSome]
        intro hprefix
        obtain ⟨rfl, hrest⟩ := List.cons_prefix_cons.mp hprefix
        cases before with
        | nil => exact absurd (List.cons_prefix_cons.mp hrest).1 (by decide)
        | cons d before =>
            obtain ⟨rfl, -⟩ := List.cons_prefix_cons.mp hrest
            exact h.1 ⟨before, rfl⟩
      rw [List.cons_append, Text.splitAtMark?, hnone]
      simp only [ih h.2, Option.map_some]

/-! ## Plain columns -/

/-- A quoted identifier begins and ends with a backtick. -/
lemma exists_inside_quoted {parts : List IdentPart} (hne : parts ≠ []) :
    ∃ inside, ['.'].intercalate (parts.map fun part => backticked part.name.toList) =
      backtick :: (inside ++ [backtick]) := by
  induction parts with
  | nil => exact absurd rfl hne
  | cons part parts ih =>
      by_cases hnone : parts = []
      · exact ⟨doubleBackticks part.name.toList, by simp [hnone, backticked]⟩
      · obtain ⟨inside, hinside⟩ := ih hnone
        refine ⟨doubleBackticks part.name.toList ++ backtick :: '.' :: backtick :: inside, ?_⟩
        rw [List.map_cons, List.intercalate_cons_of_ne_nil (by simpa using hnone), hinside]
        simp [backticked]

lemma Ident.toList_quotedSql (ident : Ident) : ident.quotedSql.toList =
    ['.'].intercalate (ident.parts.map fun part => backticked part.name.toList) := by
  rw [Ident.quotedSql, String.toList_intercalate, List.map_map]
  refine congrArg (['.'].intercalate) (List.map_congr_left fun part _ => ?_)
  exact String.toList_ofList

/-- **A quoted identifier names a column**, that of the same names inside backticks, if they may be
names and hold no arrow. -/
theorem Column.normalize_quoted {ident : Ident} (hvalid : ident.allBackticked.IsValid)
    (harrow : ∀ part ∈ ident.parts, ¬arrow <:+: backticked part.name.toList) :
    normalize ident.quotedSql = .ok (.plain ident.allBackticked) := by
  have hne : ident.parts ≠ [] := by simpa [Ident.allBackticked] using hvalid.parts_ne_nil
  have htrim : Text.trimList ident.quotedSql.toList = ident.quotedSql.toList := by
    obtain ⟨inside, hinside⟩ := exists_inside_quoted hne
    rw [Ident.toList_quotedSql, hinside]
    exact Text.trimList_append isBlank_backtick isBlank_backtick inside []
  have hnone : Text.splitAtMark? arrow ident.quotedSql.toList = none := by
    rw [Text.splitAtMark?_eq_none, Ident.toList_quotedSql]
    intro hmark
    obtain ⟨text, htext, hmark⟩ :=
      Text.infix_of_infix_intercalate (by decide) (by decide) hmark
    obtain ⟨part, hpart, rfl⟩ := List.mem_map.mp htext
    exact harrow part hpart hmark
  have hread : Ident.read ident.quotedSql = .ok ident.allBackticked := by
    rw [Ident.quotedSql_eq]
    exact hvalid.read_sql
  rw [normalize_eq_plain, Text.trim, htrim, String.ofList_toList]
  refine ⟨hnone, _, by rw [readIdent, hread], ?_⟩
  rw [normalizeParts_eq_ok, Ident.allBackticked, List.forall₂_map_left_iff,
    List.forall₂_map_right_iff, List.forall₂_same]
  exact fun part _ => normalizePart_backticked.mpr rfl

/-- A backticked name is the name of a column by itself, which is stored under it. -/
lemma Column.normalize_backtickedText {name : String} (hne : name.toList ≠ [])
    (hnul : '\x00' ∉ name.toList) (harrow : ¬arrow <:+: name.toList) :
    normalize (backtickedText name) = .ok (.plain ⟨[.backticked name]⟩) := by
  have hquoted : Ident.quotedSql ⟨[.backticked name]⟩ = backtickedText name :=
    String.intercalate_singleton
  have hvalid : (Ident.allBackticked ⟨[.backticked name]⟩).IsValid :=
    ⟨by simp [Ident.allBackticked], List.forall_mem_singleton.mpr ⟨hne, hnul⟩⟩
  rw [← hquoted]
  exact normalize_quoted hvalid (List.forall_mem_singleton.mpr fun hmark =>
    harrow (arrow_infix_of_backticked hmark))

/-- The names of a plain column may stand inside backticks. -/
lemma Column.isValid_allBackticked {name : String} {ident : Ident}
    (h : normalize name = .ok (.plain ident)) : ident.allBackticked.IsValid := by
  refine ⟨by simpa [Ident.allBackticked] using parts_ne_nil h, List.forall_mem_map.mpr ?_⟩
  intro part hpart
  rcases mem_parts h hpart with ⟨source, word, hsource, hword, rfl⟩ | ⟨word, hplain, hne, rfl⟩
  · exact (isValid_of_readIdent hsource).parts_valid _ hword
  · refine ⟨hne, fun hnul => ?_⟩
    exact absurd (mem_snakeCase_of_isPlainWord hplain hnul) (by decide)

/-- The names of a plain column hold no arrow. -/
lemma Column.not_arrow_infix {name : String} {ident : Ident}
    (h : normalize name = .ok (.plain ident)) {part : IdentPart} (hpart : part ∈ ident.parts) :
    ¬arrow <:+: backticked part.name.toList := by
  intro hinfix
  obtain ⟨hnone, -⟩ := normalize_eq_plain.mp h
  rcases mem_parts h hpart with ⟨source, word, hsource, hword, rfl⟩ | ⟨word, hplain, -, rfl⟩
  · rcases read_of_readIdent hsource with hread | ⟨-, hread⟩
    · have hwhole := hinfix.trans (Ident.infix_of_backticked hword)
      rw [Ident.sql_of_read hread, Text.trim, String.toList_ofList] at hwhole
      exact Text.splitAtMark?_eq_none.mp hnone hwhole
    · simp [(Ident.bare_of_read_snakeCase hread).1] at hword
  · have hdash := (arrow_infix_of_backticked hinfix).subset (List.mem_cons_self (a := '-'))
    exact absurd (mem_snakeCase_of_isPlainWord hplain hdash) (by decide)

lemma Ident.quotedSql_allBackticked (ident : Ident) :
    ident.allBackticked.quotedSql = ident.quotedSql := by
  rw [Ident.quotedSql, Ident.quotedSql, Ident.allBackticked, List.map_map]
  rfl

lemma Ident.lastName_allBackticked (ident : Ident) :
    ident.allBackticked.lastName = ident.lastName := by
  rw [Ident.lastName, Ident.lastName, Ident.allBackticked, List.getLast?_map, Option.map_map]
  rfl

/-! ## Columns inside documents -/

/-- **A backticked name in front of an arrow** stands for the name with its backticks doubled. -/
theorem Column.normalize_backticked_path {s : String} {head gap after : List Char}
    (hs : s.toList = backticked head ++ (gap ++ (arrow ++ after))) (hne : head ≠ [])
    (harrow : ¬arrow <:+: head) (hgap : ∀ c ∈ gap, Text.isBlank c = true) :
    normalize s = .ok (.path (String.ofList (doubleBackticks head))
      (String.ofList (arrow ++ (Text.dropBlanks after.reverse).reverse))) := by
  have htrim : Text.trimList s.toList =
      backticked head ++ gap ++ (arrow ++ (Text.dropBlanks after.reverse).reverse) := by
    have htrim := @Text.trimList_append backtick '>' isBlank_backtick (by decide)
      (doubleBackticks head ++ backtick :: (gap ++ ['-'])) after
    simpa [hs, backticked, arrow] using htrim
  have hbefore : ¬arrow <:+: backticked head ++ gap := by
    intro hinfix
    rw [backticked, List.append_assoc, List.singleton_append,
      Text.infix_cut (by decide)] at hinfix
    rcases hinfix with hname | hblank
    · exact harrow (arrow_infix_of_backticked (hname.trans (List.prefix_append _ _).isInfix))
    · exact absurd (hgap '-' (hblank.subset List.mem_cons_self)) (by decide)
  have hhead : Text.trimList (backticked head ++ gap) = backticked head := by
    have hnone : Text.dropBlanks gap.reverse = [] := by
      rw [Text.dropBlanks, List.dropWhile_eq_nil_iff]
      exact fun c hc => hgap c (List.mem_reverse.mp hc)
    rw [trimList_backticked_append, hnone, List.reverse_nil, List.append_nil]
  rw [normalize_eq_path, htrim]
  refine ⟨_, _, splitAtMark?_arrow hbefore _, ?_, ?_, String.toList_ofList⟩
  · rw [hhead, withoutBackticks_backticked, String.toList_ofList]
  · rw [String.toList_ofList]
    exact doubleBackticks_ne_nil hne

/-- What a column inside a document is written as names the column whose name has its backticks
doubled. -/
lemma Column.normalize_quotedSql_path {s head accessor : String}
    (h : normalize s = .ok (.path head accessor)) :
    normalize (quotedSql (.path head accessor)) =
      .ok (.path (String.ofList (doubleBackticks head.toList)) accessor) := by
  obtain ⟨before, after, hsplit, hhead, hne, haccessor⟩ := normalize_eq_path.mp h
  have hinfix : head.toList <:+: before := by
    rw [hhead]
    exact (withoutBackticks_isInfix _).trans (Text.trimList_isInfix before)
  have harrow : ¬arrow <:+: head.toList := fun hmark =>
    Text.not_infix_of_splitAtMark? (by decide) hsplit (hmark.trans hinfix)
  -- What is behind the arrow ends where the name ends, which has no blanks there.
  have hend : (Text.dropBlanks after.reverse).reverse = after := by
    have hlast := Text.getLast?_trimList s.toList
    rw [Text.eq_of_splitAtMark? hsplit] at hlast
    rw [Text.dropBlanks_eq_self, List.reverse_reverse]
    rw [List.head?_reverse]
    cases after with
    | nil => rfl
    | cons c after => simpa [arrow, List.getLast?_cons] using hlast
  have hs : (quotedSql (.path head accessor)).toList =
      backticked head.toList ++ ([] ++ (arrow ++ after)) := by
    rw [quotedSql, String.toList_append, backtickedText, String.toList_ofList, haccessor,
      List.nil_append]
  rw [normalize_backticked_path hs hne harrow (by simp), hend, ← haccessor, String.ofList_toList]

/-! ## Quoting -/

/-- Whether a column is inside a document and the name in front of the arrow holds a backtick. -/
def Column.HoldsBacktick : Column → Prop
  | .plain _ => False
  | .path head _ => backtick ∈ head.toList

/-- **A quoted column names a column**, and it is the same exactly if no backtick is in a name in
front of an arrow.  And a backticked name stands for one column in front of an arrow and by itself
exactly if it holds no backtick. -/
theorem Column.normalize_quotedSql {s : String} {column : Column} (h : normalize s = .ok column) :
    (∃ again, normalize column.quotedSql = .ok again ∧
      (again.quotedSql = column.quotedSql ↔ ¬column.HoldsBacktick) ∧
      (again.name = column.name ↔ ¬column.HoldsBacktick)) ∧
    ∀ name gap accessor : String, name ≠ "" → '\x00' ∉ name.toList → holdsArrow name = false →
      (∀ c ∈ gap.toList, Text.isBlank c = true) →
      ∃ own head rest, normalize (backtickedText name) = .ok own ∧ own.name = name ∧
        normalize (backtickedText name ++ gap ++ "->" ++ accessor) = .ok (.path head rest) ∧
        (head = own.name ↔ backtick ∉ name.toList) := by
  refine ⟨?_, fun name gap accessor hne hnul harrow hgap => ?_⟩
  · cases column with
    | plain ident =>
        refine ⟨_, normalize_quoted (isValid_allBackticked h) fun _ => not_arrow_infix h, ?_, ?_⟩
        · exact iff_of_true ident.quotedSql_allBackticked id
        · exact iff_of_true ident.lastName_allBackticked id
    | path head accessor =>
        refine ⟨_, normalize_quotedSql_path h, ?_, ofList_doubleBackticks_eq_iff⟩
        have hhead : quotedSql (.path (String.ofList (doubleBackticks head.toList)) accessor) =
            quotedSql (.path head accessor) ↔
            backtickedText (String.ofList (doubleBackticks head.toList)) = backtickedText head := by
          simp only [quotedSql, ← String.toList_inj, String.toList_append, List.append_left_inj]
        rw [hhead, backtickedText_injective.eq_iff, ofList_doubleBackticks_eq_iff]
        rfl
  · have hinside : ¬arrow <:+: name.toList := by
      rw [← Text.holdsMark_iff, ← holdsArrow, harrow]
      exact Bool.false_ne_true
    have hnonempty : name.toList ≠ [] := by simpa using hne
    have hs : (backtickedText name ++ gap ++ "->" ++ accessor).toList =
        backticked name.toList ++ (gap.toList ++ (arrow ++ accessor.toList)) := by
      simp [backtickedText, arrow]
    exact ⟨_, _, _, normalize_backtickedText hnonempty hnul hinside, rfl,
      normalize_backticked_path hs hnonempty hinside hgap, ofList_doubleBackticks_eq_iff⟩

/-- A backtick in the name, which a column of its own keeps and a column in a document doubles. -/
theorem Column.normalize_quotedSql_of_backtick :
    let column : Column := .path "a``b" "->x"
    normalize "`a``b`->x" = .ok column ∧
      (∃ again, normalize column.quotedSql = .ok again ∧ again.name ≠ column.name) ∧
      ∃ own, normalize "`a``b`" = .ok own ∧ own.name = "a`b" ∧ own.name ≠ column.name := by
  intro column
  have h : normalize "`a``b`->x" = .ok column := by decide +kernel
  obtain ⟨⟨again, hagain, -, hname⟩, hsame⟩ := normalize_quotedSql h
  obtain ⟨own, head, rest, hown, hownname, hpath, hhead⟩ :=
    hsame "a`b" "" "x" (by decide) (by decide) (by decide) (by simp)
  have hcolumn : column = .path head rest := Except.ok.inj (h.symm.trans hpath)
  refine ⟨h, ⟨again, hagain, fun heq => hname.mp heq ?_⟩, own, hown, hownname, fun heq => ?_⟩
  · show backtick ∈ "a``b".toList
    decide
  · rw [hcolumn] at heq
    exact hhead.mp heq.symm (by decide)

end SqlAccess
