import SqlAccess.Proofs.Column
import SqlAccess.Proofs.Ident.RoundTrip
import SqlAccess.Proofs.Text.SnakeName

/-!
# Which columns keep their name

A column is stored under a name that need not be the one it was given.  **`Column.name_eq_iff`**
says when it is: exactly if the name is in snake case already.

* Plain words with dots between them are read as they are and put in snake case one by one
  (`Column.normalize_bare_eq_ok`).  A name in snake case is such a word and stays as it is
  (`Column.normalize_of_isSnakeName`).
* A name that is kept has no marks.  In front of an arrow and inside backticks, what is stored is
  shorter than what was given; and snake case makes up no dot, so there is one part and it is bare.
* That part comes out of snake case itself, be it that it was read as it is or from the snake case
  of the name (`Column.isSnakeName_of_bare`).  A plain word that does is in snake case, and putting
  it in snake case once more changes nothing.
-/

namespace SqlAccess

open Text (isSnakeChar isSnakeName snakeCase)

/-! ## Names in snake case -/

lemma exists_lower_of_isSnakeName {name : String} (h : isSnakeName name = true) :
    ∃ c rest, name.toList = c :: rest ∧ c.isLower = true := by
  have hfirst := (Bool.and_eq_true_iff.mp h).1
  cases hname : name.toList with
  | nil => simp [hname] at hfirst
  | cons c rest => exact ⟨c, rest, rfl, by simpa [hname] using hfirst⟩

/-- A character of a name in snake case is an underscore or belongs to a word. -/
lemma mem_of_isSnakeName {name : String} (h : isSnakeName name = true) {c : Char}
    (hc : c ∈ name.toList) : c = '_' ∨ isSnakeChar c = true := by
  have hname : ['_'].intercalate (Text.pieces '_' name.toList) = name.toList :=
    Text.intercalate_piecesFrom '_' [] name.toList
  rw [← hname] at hc
  rcases Text.mem_intercalate hc with hunderscore | ⟨word, hword, hc⟩
  · exact .inl (List.mem_singleton.mp hunderscore)
  · have hsnake := List.all_eq_true.mp (Bool.and_eq_true_iff.mp h).2 word hword
    exact .inr ((Text.isSnakeWord_iff.mp hsnake).2 c hc)

lemma continuesWord_of_snake {c : Char} (h : c = '_' ∨ isSnakeChar c = true) :
    continuesWord c = true := by
  rcases h with rfl | h
  · decide
  · have hall := Text.ascii_forall (p := fun c => !isSnakeChar c || continuesWord c) (by decide)
      (Text.toNat_lt_of_isSnakeChar h)
    simpa [h] using hall

lemma isPlainWord_of_isSnakeName {name : String} (h : isSnakeName name = true) :
    isPlainWord name.toList = true := by
  have hcontinues : ∀ c ∈ name.toList, continuesWord c = true := fun c hc =>
    continuesWord_of_snake (mem_of_isSnakeName h hc)
  obtain ⟨c, rest, hname, hlower⟩ := exists_lower_of_isSnakeName h
  rw [hname, List.forall_mem_cons] at hcontinues
  have hletter : c.isAlpha = true := Bool.or_eq_true_iff.mpr (.inr hlower)
  rw [hname]
  simpa [isPlainWord, startsWord, hletter] using hcontinues.2

/-! ## Plain words with dots between them -/

/-- No character of a plain word is a blank. -/
lemma isBlank_of_continuesWord {c : Char} (h : continuesWord c = true) :
    Text.isBlank c = false := by
  have hall := Text.ascii_forall (p := fun c => !continuesWord c || !Text.isBlank c) (by decide)
    (toNat_lt_of_continuesWord h)
  simpa [h] using hall

lemma Ident.sql_bare (words : List String) :
    Ident.sql ⟨words.map .bare⟩ = ".".intercalate words := by
  rw [Ident.sql, List.map_map]
  exact congrArg (".".intercalate) (List.map_id' words)

/-- Plain words are read as the identifier of bare parts. -/
lemma Ident.read_bare {words : List String} (hne : words ≠ [])
    (hplain : ∀ word ∈ words, isPlainWord word.toList = true) :
    Ident.read (".".intercalate words) = .ok ⟨words.map .bare⟩ := by
  have hvalid : Ident.IsValid ⟨words.map .bare⟩ :=
    ⟨by simpa using hne, List.forall_mem_map.mpr hplain⟩
  rw [← Ident.sql_bare]
  exact hvalid.read_sql

lemma mem_dotted {words : List String} (hplain : ∀ word ∈ words, isPlainWord word.toList = true)
    {c : Char} (hc : c ∈ (".".intercalate words).toList) : c = '.' ∨ continuesWord c = true := by
  rw [String.toList_intercalate] at hc
  rcases Text.mem_intercalate hc with hdot | ⟨text, htext, hc⟩
  · exact .inl (List.mem_singleton.mp hdot)
  · obtain ⟨word, hword, rfl⟩ := List.mem_map.mp htext
    exact .inr (continuesWord_of_isPlainWord (hplain word hword) c hc)

/-- **Plain words are put in snake case one by one.** -/
theorem Column.normalize_bare {words : List String} (hne : words ≠ [])
    (hplain : ∀ word ∈ words, isPlainWord word.toList = true) :
    normalize (".".intercalate words) =
      (normalizeParts (".".intercalate words) (words.map .bare)).map fun parts =>
        .plain ⟨parts⟩ := by
  have htrim : Text.trimList (".".intercalate words).toList = (".".intercalate words).toList := by
    refine Text.trimList_eq_self fun c hc => ?_
    rcases mem_dotted hplain hc with rfl | hword
    · decide
    · exact isBlank_of_continuesWord hword
  have hnone : Text.splitAtMark? arrow (".".intercalate words).toList = none := by
    rw [Text.splitAtMark?_eq_none]
    intro hmark
    have hdash := hmark.subset (List.mem_cons_self (a := '-'))
    rcases mem_dotted hplain hdash with hdot | hword
    · exact absurd hdot (by decide)
    · exact absurd hword (by decide)
  simp only [normalize, htrim, hnone, String.ofList_toList, readIdent, Ident.read_bare hne hplain]
  show (normalizeParts (".".intercalate words) (words.map .bare) >>= fun parts =>
    Except.ok (Column.plain ⟨parts⟩)) = _
  cases normalizeParts (".".intercalate words) (words.map .bare) <;> rfl

/-- Bare parts can be put in snake case if something is left of each. -/
lemma Column.normalizeParts_bare {name : String} {words : List String} {normal : List IdentPart} :
    normalizeParts name (words.map .bare) = .ok normal ↔
      (∀ word ∈ words, (snakeCase word).toList ≠ []) ∧
        normal = words.map fun word => .bare (snakeCase word) := by
  simp only [normalizeParts_eq_ok, List.forall₂_map_left_iff, normalizePart_bare,
    List.forall₂_and_left, eq_comm (b := IdentPart.bare _)]
  rw [← List.forall₂_map_left_iff (f := fun word => IdentPart.bare (snakeCase word)),
    List.forall₂_eq_eq_eq, eq_comm (a := normal)]

/-- **The column of plain words** is that of their snake case. -/
theorem Column.normalize_bare_eq_ok {words : List String} (hne : words ≠ [])
    (hplain : ∀ word ∈ words, isPlainWord word.toList = true) {column : Column} :
    normalize (".".intercalate words) = .ok column ↔
      (∀ word ∈ words, (snakeCase word).toList ≠ []) ∧
        column = .plain ⟨words.map fun word => .bare (snakeCase word)⟩ := by
  rw [normalize_bare hne hplain, map_eq_ok]
  constructor
  · rintro ⟨normal, hnormal, rfl⟩
    obtain ⟨hwords, rfl⟩ := normalizeParts_bare.mp hnormal
    exact ⟨hwords, rfl⟩
  · rintro ⟨hwords, rfl⟩
    exact ⟨_, normalizeParts_bare.mpr ⟨hwords, rfl⟩, rfl⟩

/-- The only fault of parts is that nothing is left of one in snake case. -/
lemma Column.eq_noWords {name : String} {parts : List IdentPart} {e : ColumnError}
    (h : normalizeParts name parts = .error e) : e = .noWords name := by
  induction parts with
  | nil => cases h
  | cons part parts ih =>
      rcases bind_eq_error.mp h with hpart | ⟨stored, -, h⟩
      · cases part with
        | bare word =>
            simp only [normalizePart] at hpart
            split_ifs at hpart
            exact (Except.error.inj hpart).symm
        | backticked word => cases hpart
      · rcases bind_eq_error.mp h with hothers | ⟨others, -, h⟩
        · exact ih hothers
        · cases h

/-- Plain words name no column if nothing is left of one of them in snake case. -/
theorem Column.normalize_bare_eq_error {words : List String}
    (hplain : ∀ word ∈ words, isPlainWord word.toList = true) {word : String} (hword : word ∈ words)
    (hnone : (snakeCase word).toList = []) :
    normalize (".".intercalate words) = .error (.noWords (".".intercalate words)) := by
  have hne := List.ne_nil_of_mem hword
  cases hnormal : normalize (".".intercalate words) with
  | ok column => exact absurd hnone (((normalize_bare_eq_ok hne hplain).mp hnormal).1 word hword)
  | error e =>
      rw [normalize_bare hne hplain] at hnormal
      rw [eq_noWords (map_eq_error.mp hnormal)]

lemma snakeCase_ne_nil_of_isSnakeName {name : String} (h : isSnakeName name = true) :
    (snakeCase name).toList ≠ [] := by
  obtain ⟨c, rest, hname, -⟩ := exists_lower_of_isSnakeName h
  rw [Text.snakeCase_of_isSnakeName h, hname]
  exact List.cons_ne_nil c rest

/-- **Names in snake case name the column** that is stored under them. -/
theorem Column.normalize_of_forall_isSnakeName {words : List String} (hne : words ≠ [])
    (h : ∀ word ∈ words, isSnakeName word = true) :
    normalize (".".intercalate words) = .ok (.plain ⟨words.map .bare⟩) := by
  refine (normalize_bare_eq_ok hne fun word hword => isPlainWord_of_isSnakeName (h word hword)).mpr
    ⟨fun word hword => snakeCase_ne_nil_of_isSnakeName (h word hword), ?_⟩
  rw [List.map_congr_left fun word hword =>
    congrArg IdentPart.bare (Text.snakeCase_of_isSnakeName (h word hword))]

theorem Column.normalize_of_isSnakeName {name : String} (h : isSnakeName name = true) :
    normalize name = .ok (.plain ⟨[.bare name]⟩) := by
  have hnormal := normalize_of_forall_isSnakeName (List.cons_ne_nil name [])
    (List.forall_mem_singleton.mpr h)
  rwa [String.intercalate_singleton, List.map_singleton] at hnormal

/-! ## Names that are kept -/

/-- What snake case makes of a plain word is made of underscores, lower-case letters and digits. -/
lemma mem_snakeCase_of_isPlainWord {word : String} (h : isPlainWord word.toList = true) {c : Char}
    (hc : c ∈ (snakeCase word).toList) : c = '_' ∨ isSnakeChar c = true := by
  have hascii : ∀ d ∈ word.toList, d.toNat < 128 := fun d hd =>
    toNat_lt_of_continuesWord (continuesWord_of_isPlainWord h d hd)
  refine (Text.snakeCase_mem hc).imp_right fun hrange => hrange.resolve_left ?_
  exact Nat.not_le.mpr (Text.snakeCase_ascii hascii hc)

/-- What comes out of snake case and is a plain word is in snake case. -/
lemma isSnakeName_of_isPlainWord {s : String} (h : isPlainWord (snakeCase s).toList = true) :
    isSnakeName (snakeCase s) = true := by
  have hascii : ∀ c ∈ (snakeCase s).toList, c.toNat < 128 := fun c hc =>
    toNat_lt_of_continuesWord (continuesWord_of_isPlainWord h c hc)
  cases hname : (snakeCase s).toList with
  | nil => simp [hname, isPlainWord] at h
  | cons c rest =>
      refine Text.isSnakeName_snakeCase hname ?_ hascii
      rw [hname, isPlainWord, Bool.and_eq_true] at h
      have hfirst := Text.ascii_forall (p := fun c => !startsWord c || !c.isDigit) (by decide)
        (hascii c (by simp [hname]))
      simpa [h.1] using hfirst

/-- The last of the parts in snake case is the last part in snake case. -/
lemma Column.getLast?_of_normalizeParts {name : String} {parts normal : List IdentPart}
    (h : normalizeParts name parts = .ok normal) {last : IdentPart}
    (hlast : parts.getLast? = some last) :
    ∃ stored, normalizePart name last = .ok stored ∧ normal.getLast? = some stored := by
  induction parts generalizing normal with
  | nil => simp at hlast
  | cons part parts ih =>
      obtain ⟨first, hfirst, h⟩ := bind_eq_ok.mp h
      obtain ⟨others, hothers, h⟩ := bind_eq_ok.mp h
      obtain rfl := Except.ok.inj h
      cases parts with
      | nil =>
          obtain rfl := Except.ok.inj hothers
          obtain rfl : part = last := by simpa using hlast
          exact ⟨first, hfirst, by simp⟩
      | cons next parts =>
          rw [List.getLast?_cons_cons] at hlast
          obtain ⟨stored, hstored, hnormal⟩ := ih hothers hlast
          refine ⟨stored, hstored, ?_⟩
          simp [List.getLast?_cons, hnormal]

lemma Ident.parts_eq_singleton {ident : Ident} {last : IdentPart}
    (hlast : ident.parts.getLast? = some last) (hdot : '.' ∉ ident.sql.toList) :
    ident.parts = [last] := by
  rw [Ident.toList_sql] at hdot
  match hparts : ident.parts with
  | [] => simp [hparts] at hlast
  | [part] => simpa [hparts] using hlast
  | part :: next :: parts =>
      rw [hparts, List.map_cons, List.map_cons, List.intercalate_cons_cons] at hdot
      simp at hdot

lemma ne_of_mem_snakeCase {s : String} {c d : Char} (hc : c ∈ (snakeCase s).toList)
    (hd : (d == '_' || decide (128 ≤ d.toNat) || isSnakeChar d) = false) : c ≠ d := by
  rintro rfl
  rcases Text.snakeCase_mem hc with rfl | hc | hc <;> simp_all

lemma length_le_doubleBackticks (name : List Char) :
    name.length ≤ (doubleBackticks name).length := by
  induction name with
  | nil => exact le_rfl
  | cons c name ih =>
      rw [doubleBackticks]
      split_ifs <;> simp <;> omega

lemma length_backticked (name : List Char) : name.length + 2 ≤ (backticked name).length := by
  have hdoubled := length_le_doubleBackticks name
  simp [backticked]
  omega

lemma Ident.infix_of_backticked {ident : Ident} {name : String}
    (h : .backticked name ∈ ident.parts) : backticked name.toList <:+: ident.sql.toList := by
  have hsql : (IdentPart.sql false (.backticked name)).toList = backticked name.toList :=
    String.toList_ofList
  rw [Ident.toList_sql, ← hsql]
  exact Text.infix_intercalate (List.mem_map.mpr ⟨_, h, rfl⟩)

lemma withoutBackticks_isInfix (text : List Char) : withoutBackticks text <:+: text := by
  unfold withoutBackticks
  split
  · split_ifs
    · exact List.infix_cons (List.dropLast_prefix _).isInfix
    · exact List.infix_refl _
  · exact List.infix_refl _

/-- A column that reaches into a document is stored under less than what was given. -/
lemma Column.length_of_path {name head accessor : String}
    (h : normalize name = .ok (.path head accessor)) :
    head.toList.length < name.toList.length := by
  obtain ⟨before, after, hsplit, hhead, -⟩ := normalize_eq_path.mp h
  have htext := congrArg List.length (Text.eq_of_splitAtMark? hsplit)
  have htrim := (Text.trimList_isInfix name.toList).length_le
  have hbefore := (Text.trimList_isInfix before).length_le
  have hless := (withoutBackticks_isInfix (Text.trimList before)).length_le
  simp [arrow] at htext
  rw [hhead]
  omega

/-- **What is read from snake case is one bare part**, a name in snake case. -/
lemma Ident.bare_of_read_snakeCase {s : String} {ident : Ident}
    (h : Ident.read (snakeCase s) = .ok ident) :
    ident = ⟨[.bare (snakeCase s)]⟩ ∧ isSnakeName (snakeCase s) = true := by
  have hvalid := Ident.isValid_of_read h
  have hsql := Ident.sql_of_read h
  have hdot : '.' ∉ ident.sql.toList := by
    rw [hsql]
    exact fun hmem => ne_of_mem_snakeCase hmem (by decide) rfl
  obtain ⟨last, hlast⟩ : ∃ last, ident.parts.getLast? = some last :=
    ⟨_, List.getLast?_eq_getLast_of_ne_nil hvalid.parts_ne_nil⟩
  have hparts : ident = ⟨[last]⟩ := congrArg Ident.mk (Ident.parts_eq_singleton hlast hdot)
  have hmem := List.mem_of_getLast? hlast
  cases last with
  | bare word =>
      obtain rfl : word = snakeCase s := by
        rw [← hsql, hparts]
        exact ((Ident.sql_bare [word]).trans String.intercalate_singleton).symm
      exact ⟨hparts, isSnakeName_of_isPlainWord (hvalid.parts_valid _ hmem)⟩
  | backticked word =>
      have hmark := (Ident.infix_of_backticked hmem).subset (List.mem_cons_self (a := backtick))
      rw [hsql] at hmark
      exact absurd rfl (ne_of_mem_snakeCase hmark (by decide))

/-- Where a column keeps its name, the name is no path, and the last part that is read for it is
stored under the name. -/
lemma Column.read_of_name_eq {name : String} {column : Column} (h : normalize name = .ok column)
    (hname : column.name = name) :
    ∃ ident last stored, readIdent (Text.trim name) = .ok ident ∧
      ident.parts.getLast? = some last ∧ normalizePart (Text.trim name) last = .ok stored ∧
      stored.name = name := by
  cases column with
  | path head accessor =>
      have hlength := length_of_path h
      rw [← hname] at hlength
      exact absurd hlength (lt_irrefl _)
  | plain normal =>
      obtain ⟨-, ident, hident, hparts⟩ := normalize_eq_plain.mp h
      obtain ⟨last, hlast⟩ : ∃ last, ident.parts.getLast? = some last :=
        ⟨_, List.getLast?_eq_getLast_of_ne_nil (isValid_of_readIdent hident).parts_ne_nil⟩
      obtain ⟨stored, hstored, hnormal⟩ := getLast?_of_normalizeParts hparts hlast
      refine ⟨ident, last, stored, hident, hlast, hstored, ?_⟩
      simpa [Column.name, Ident.lastName, hnormal] using hname

/-- The bare part of a column that keeps its name is what comes out of snake case, and the name is
its snake case. -/
lemma Column.isSnakeName_of_bare {name word : String} {ident : Ident}
    (hident : readIdent (Text.trim name) = .ok ident)
    (hlast : ident.parts.getLast? = some (.bare word)) (hname : snakeCase word = name) :
    isSnakeName name = true := by
  have hword : isPlainWord word.toList = true :=
    (isValid_of_readIdent hident).parts_valid _ (List.mem_of_getLast? hlast)
  have hblank : ∀ c ∈ name.toList, Text.isBlank c = false := by
    intro c hc
    rw [← hname] at hc
    exact isBlank_of_continuesWord (continuesWord_of_snake (mem_snakeCase_of_isPlainWord hword hc))
  rw [Text.trim, Text.trimList_eq_self hblank, String.ofList_toList] at hident
  rcases read_of_readIdent hident with hread | ⟨-, hread⟩
  · rw [← hname] at hread ⊢
    exact (Ident.bare_of_read_snakeCase hread).2
  · obtain ⟨rfl, hsnake⟩ := Ident.bare_of_read_snakeCase hread
    have hsame : snakeCase name = word := by simpa using hlast
    rw [hsame] at hsnake
    rw [← hname, Text.snakeCase_of_isSnakeName hsnake]
    exact hsnake

/-- **Columns that keep their name.**  A name that stands for a column stands for the column of that
very name exactly if it is in snake case. -/
theorem Column.name_eq_iff {name : String} {column : Column} (h : normalize name = .ok column) :
    column.name = name ↔ isSnakeName name = true := by
  refine ⟨fun hname => ?_, fun hsnake => ?_⟩
  · obtain ⟨ident, last, stored, hident, hlast, hstored, hname⟩ := read_of_name_eq h hname
    cases last with
    | backticked word =>
        obtain rfl := normalizePart_backticked.mp hstored
        obtain rfl : word = name := hname
        have hmem := List.mem_of_getLast? hlast
        rcases read_of_readIdent hident with hread | ⟨-, hread⟩
        · have hpiece := (Ident.infix_of_backticked hmem).length_le
          rw [Ident.sql_of_read hread, Text.trim, String.toList_ofList] at hpiece
          have htrim := (Text.trimList_isInfix word.toList).length_le
          have hmarks := length_backticked word.toList
          omega
        · simp [(Ident.bare_of_read_snakeCase hread).1] at hmem
    | bare word =>
        obtain ⟨-, rfl⟩ := normalizePart_bare.mp hstored
        exact isSnakeName_of_bare hident hlast hname
  · rw [normalize_of_isSnakeName hsnake] at h
    obtain rfl := Except.ok.inj h
    simp [Column.name, Ident.lastName, IdentPart.name]

example : Column.normalize "createdAt" = .ok (.plain ⟨[.bare "created_at"]⟩) := by decide +kernel

end SqlAccess
