import SqlAccess.Proofs.Sql.Boundaries
import SqlAccess.Proofs.Sql.LetterCase
import SqlAccess.Proofs.Sql.NamedQueries

/-!
# A statement is cut at boundaries only

The walk by places finds what `classify` finds, never cuts a character in two, and never goes on
with nothing because a text could not be cut.  Every part of the walk is taken together with the
function over characters that it is equal to (`Walk.Yields`): the places are right because the
characters behind them are known, and these are known because the places were right.

**`classifyWalk_cuts_at_boundaries`** — all the places of the walk over a statement are boundaries,
and so are the ends of silence, groups and names from any boundary of any text.
-/

namespace SqlAccess.Sql

/-! ## What a walk yields -/

/-- A walk finds something, and comes to boundaries only. -/
structure Walk.Yields {α : Type} (walk : Walk α) (a : α) : Prop where
  result : walk.result = some a
  isValid : ∀ place ∈ walk.places, place.offset.IsValid place.text

namespace Walk.Yields

variable {α β : Type} {walk : Walk α} {a : α} {b : β}

lemma pure (a : α) : (Pure.pure a : Walk α).Yields a :=
  ⟨rfl, nofun⟩

lemma goOn {f : (a : α) → walk.result = some a → Walk β} (h : walk.Yields a)
    (hf : (f a h.result).Yields b) : (walk.goOn f).Yields b := by
  obtain ⟨places, result⟩ := walk
  obtain rfl : result = some a := h.result
  exact ⟨hf.result, fun place hplace =>
    (List.mem_append.mp hplace).elim (h.isValid place) (hf.isValid place)⟩

lemma bind {f : α → Walk β} (h : walk.Yields a) (hf : (f a).Yields b) :
    (walk >>= f).Yields b :=
  goOn h hf

end Walk.Yields

section Cuts

variable {text rest : List Char} {i : Nat}

lemma Leaves.yields_visit (h : Leaves text i rest) : (Walk.visit text i).Yields i :=
  ⟨rfl, fun _ hplace => List.mem_singleton.mp hplace ▸ h.isValid⟩

lemma Leaves.yields_cut (h : Leaves text i rest) : (Walk.cut text i).Yields rest := by
  obtain ⟨before, hcut⟩ := h.cutAt?
  exact ⟨by rw [Walk.cut, hcut]; rfl, fun _ hplace => List.mem_singleton.mp hplace ▸ h.isValid⟩

lemma Leaves.yields_tryCut (h : Leaves text i rest) : (Walk.tryCut text i).Yields rest := by
  obtain ⟨before, hcut⟩ := h.cutAt?
  exact ⟨by rw [Walk.tryCut, hcut]; rfl, fun _ hplace => List.mem_singleton.mp hplace ▸ h.isValid⟩

end Cuts

/-! ## The first word -/

/-- Letters of either case have the same number of bytes. -/
lemma length_utf8_toLower (text : List Char) :
    (utf8 (text.map Char.toLower)).length = (utf8 text).length := by
  induction text with
  | nil => rfl
  | cons c text ih =>
      have hsize : c.toLower.utf8Size = c.utf8Size :=
        apply_toLower (f := Char.utf8Size) (by decide) c
      rw [List.map_cons, Text.length_utf8_cons, Text.length_utf8_cons, ih, hsize]

lemma utf8ByteSize_of_toLower {written : List Char} {keyword : String}
    (h : written.map Char.toLower = keyword.toList.map Char.toLower) :
    (utf8 written).length = keyword.utf8ByteSize := by
  rw [Text.utf8ByteSize_eq, Text.byteCount_eq, ← length_utf8_toLower, h, length_utf8_toLower]

/-- The letters of a keyword are as many bytes of the text as the keyword has. -/
lemma dropWord?_eq_some_iff_slice? {keyword : String} {text rest : List Char} :
    Text.dropWord? keyword.toList text = some rest ↔
      ∃ word, Text.slice? 0 keyword.utf8ByteSize text = some word ∧
        Text.equalsIgnoringCase (String.ofList word) keyword = true ∧ text = word ++ rest := by
  have hletters (word : List Char) :
      Text.equalsIgnoringCase (String.ofList word) keyword = true ↔
        word.map Char.toLower = keyword.toList.map Char.toLower := by
    rw [Text.equalsIgnoringCase, String.toList_ofList, beq_iff_eq]
  rw [Text.dropWord?_eq_some]
  constructor
  · rintro ⟨word, rfl, hlower⟩
    exact ⟨word, Text.slice?_eq_some.mpr ⟨[], rest, rfl, rfl, utf8ByteSize_of_toLower hlower⟩,
      (hletters word).mpr hlower, rfl⟩
  · rintro ⟨word, -, hequal, rfl⟩
    exact ⟨word, rfl, (hletters word).mp hequal⟩

/-- **Keywords are found by places**, and cut off behind their letters. -/
lemma yields_keywordWalk (keyword : String) (text : List Char) :
    (keywordWalk keyword text).Yields (startsWithKeyword keyword text) := by
  rw [keywordWalk, startsWithKeyword, afterKeyword?]
  cases hslice : Text.slice? 0 keyword.utf8ByteSize text with
  | none =>
      have hdrop : Text.dropWord? keyword.toList text = none := by
        refine Option.eq_none_iff_forall_ne_some.mpr fun rest hrest => ?_
        obtain ⟨word, hword, -⟩ := dropWord?_eq_some_iff_slice?.mp hrest
        simp [hslice] at hword
      rw [hdrop]
      exact .pure false
  | some word =>
      obtain ⟨before, rest, rfl, hbefore, hbytes⟩ := Text.slice?_eq_some.mp hslice
      obtain rfl := Text.length_utf8_eq_zero.mp hbefore
      cases hequal : Text.equalsIgnoringCase (String.ofList word) keyword with
      | true =>
          have hrest : Leaves (word ++ rest) keyword.utf8ByteSize rest := ⟨word, rfl, hbytes⟩
          have hdrop := dropWord?_eq_some_iff_slice?.mpr ⟨word, hslice, hequal, rfl⟩
          simp only [hdrop, hequal, if_true]
          refine hrest.yields_cut.bind ?_
          cases rest with
          | nil => exact .pure true
          | cons c rest =>
              rw [List.head?_cons, Option.all_some]
              cases hpart : c.isAlphanum || c == '_' with
              | true => simpa [hpart] using Walk.Yields.pure false
              | false => simpa [hpart] using Walk.Yields.pure true
      | false =>
          have hdrop : Text.dropWord? keyword.toList ([] ++ word ++ rest) = none := by
            refine Option.eq_none_iff_forall_ne_some.mpr fun more hmore => ?_
            obtain ⟨other, hother, hletters, -⟩ := dropWord?_eq_some_iff_slice?.mp hmore
            obtain rfl := Option.some.inj (hslice.symm.trans hother)
            simp [hequal] at hletters
          simp only [hdrop, hequal, Bool.false_eq_true, if_false]
          exact .pure false

/-- A line ends with its mark. -/
lemma afterLine_eq (text : List Char) :
    afterLine text = ((Text.splitAtMark? ['\n'] text).map Prod.snd).getD [] := by
  induction text with
  | nil => rfl
  | cons c text ih =>
      rw [afterLine, ih, Text.splitAtMark?, Text.dropLead?]
      by_cases hend : c = '\n'
      · simp [hend, Text.dropLead?]
      · rw [if_neg hend, if_neg (Ne.symm hend), Option.map_map]
        rfl

/-- A block ends with its mark. -/
lemma afterBlock_eq (text : List Char) :
    afterBlock text = ((Text.splitAtMark? ['*', '/'] text).map Prod.snd).getD [] := by
  fun_induction afterBlock text with
  | case1 => rfl
  | case2 c => by_cases hc : '*' = c <;> simp [Text.splitAtMark?, Text.dropLead?, hc]
  | case3 c d text hend =>
      obtain ⟨rfl, rfl⟩ := hend
      rfl
  | case4 c d text hend ih =>
      have hnone : Text.dropLead? ['*', '/'] (c :: d :: text) = none := by
        refine Option.eq_none_iff_forall_ne_some.mpr fun rest hrest => hend ?_
        have hhead := Text.dropLead?_eq_some.mp hrest
        rw [List.cons_append, List.cons_append] at hhead
        obtain ⟨hc, htext⟩ := List.cons.inj hhead
        exact ⟨hc, (List.cons.inj htext).1⟩
      rw [ih, Text.splitAtMark?.eq_2 _ c, hnone, Option.map_map]
      rfl

lemma yields_behindWalk (mark text : List Char) :
    (behindWalk mark text).Yields (((Text.splitAtMark? mark text).map Prod.snd).getD []) := by
  rw [behindWalk, placeOf?]
  cases hsplit : Text.splitAtMark? mark text with
  | none => exact .pure []
  | some pair =>
      obtain ⟨before, rest⟩ := pair
      refine Leaves.yields_cut ⟨before ++ mark, ?_, ?_⟩
      · rw [Text.eq_of_splitAtMark? hsplit, List.append_assoc]
        rfl
      · rw [← Text.byteCount_eq, Text.byteCount_append]

/-- What stands in front of the first word is gone over by places. -/
lemma yields_leadWalk (text : List Char) : (leadWalk text).Yields (afterLead? text) := by
  fun_cases afterLead? text with
  | case1 text =>
      have hline : afterLine ('-' :: '-' :: text) = afterLine text := rfl
      rw [← hline, afterLine_eq]
      exact (yields_behindWalk ['\n'] _).bind (.pure _)
  | case2 text =>
      have hline : afterLine ('#' :: text) = afterLine text := rfl
      rw [← hline, afterLine_eq]
      exact (yields_behindWalk ['\n'] _).bind (.pure _)
  | case3 text =>
      rw [← afterBlock_slash, afterBlock_eq]
      exact (yields_behindWalk ['*', '/'] _).bind (.pure _)
  | case4 text => exact .pure _
  | case5 text hminus hhash hblock hopen =>
      have hmark : leadMark? text = none := by
        unfold leadMark?
        split
        · exact absurd rfl (hminus _)
        · exact absurd rfl (hhash _)
        · exact absurd rfl (hblock _)
        · rfl
      unfold leadWalk
      simp only [hmark]
      exact .pure none

/-- **The first word is found by places.** -/
lemma yields_firstWordWalk (text : List Char) :
    (firstWordWalk text).Yields (fromFirstWord text) := by
  fun_induction fromFirstWord text with
  | case1 text start rest hlead ih =>
      have hwalk := yields_leadWalk start
      rw [hlead] at hwalk
      rw [firstWordWalk]
      exact hwalk.goOn ih
  | case2 text start hlead =>
      have hwalk := yields_leadWalk start
      rw [hlead] at hwalk
      rw [firstWordWalk]
      exact hwalk.goOn (.pure start)

/-! ## Named queries -/

section Queries

variable {text rest : List Char} {i : Nat}

lemma Leaves.yields_silenceWalk (h : Leaves text i rest) :
    ∃ next, (silenceWalk text i).Yields next ∧ Leaves text next (dropSilence rest) :=
  ⟨_, h.silenceEnd.yields_visit, h.silenceEnd⟩

/-- Whether there is a group, and what is left behind it. -/
lemma Leaves.yields_groupWalk? (h : Leaves text i rest) :
    ∃ next?, (groupWalk? text i).Yields next? ∧
      Option.Rel (Leaves text) next? (afterParens? rest) := by
  have hopen := h.getElem?_eq_some (d := '(') (by decide)
  rw [groupWalk?]
  fun_cases afterParens? rest with
  | case1 rest =>
      have hgroup :
          Leaves text (groupEnd (bytesOf (String.ofList text)) i) (afterGroup 1 rest) := by
        rw [← afterGroup_open]
        exact h.groupEndFrom
      obtain ⟨next, hwalk, hnext⟩ := hgroup.yields_silenceWalk
      rw [if_pos (hopen.mpr rfl)]
      exact ⟨some next, hgroup.yields_visit.bind (hwalk.bind (.pure _)), .some hnext⟩
  | case2 rest hother =>
      rw [if_neg]
      · exact ⟨none, .pure none, .none⟩
      · intro hbyte
        obtain ⟨more, rfl⟩ := List.head?_eq_some_iff.mp (hopen.mp hbyte)
        exact hother more rfl

/-- A walk goes on to what is wanted. -/
lemma exists_yields_bind {α β : Type} {walk : Walk α} {a : α} {f : α → Walk β} {P : β → Prop}
    (h : walk.Yields a) (hf : ∃ b, (f a).Yields b ∧ P b) :
    ∃ b, (walk >>= f).Yields b ∧ P b := by
  obtain ⟨b, hb, hP⟩ := hf
  exact ⟨b, h.bind hb, hP⟩

/-- What is left if there is a group, or if there is none. -/
lemma Leaves.getD {next? : Option Nat} {after? : Option (List Char)} (h : Leaves text i rest)
    (hrel : Option.Rel (Leaves text) next? after?) :
    Leaves text (next?.getD i) (after?.getD rest) := by
  cases hrel with
  | none => exact h
  | some hnext => exact hnext

/-- Behind a keyword there is a boundary. -/
lemma Leaves.afterKeyword? (keyword : String) {behind : List Char} (h : Leaves text i rest)
    (hkeyword : afterKeyword? keyword.toList rest = some behind) :
    Leaves text (i + keyword.utf8ByteSize) behind := by
  obtain ⟨written, rfl, hlower⟩ :=
    Text.dropWord?_eq_some.mp (dropWord?_of_afterKeyword? hkeyword)
  rw [← utf8ByteSize_of_toLower hlower]
  exact h.append

/-- Whether there is a named query, and what is left behind it. -/
lemma Leaves.yields_namedQueryWalk (h : Leaves text i rest) :
    ∃ next?, (namedQueryWalk text i).Yields next? ∧
      Option.Rel (Leaves text) next? (afterNamedQuery? rest) := by
  obtain ⟨start, hstartWalk, hstart⟩ := h.yields_silenceWalk
  have hname := hstart.nameEnd?
  rw [namedQueryWalk, afterNamedQuery?]
  generalize hend : Sql.nameEnd? _ start = end?, afterName? (dropSilence rest) = after? at hname
  cases hname with
  | none => exact ⟨none, hstartWalk.bind (by rw [hend]; exact .pure none), .none⟩
  | @some behind more hbehind =>
      obtain ⟨named, hnamedWalk, hnamed⟩ := hbehind.yields_silenceWalk
      obtain ⟨columns, hcolumnsWalk, hcolumns⟩ := hnamed.yields_groupWalk?
      have hlisted := hnamed.getD hcolumns
      refine exists_yields_bind hstartWalk ?_
      simp only [hend]
      refine exists_yields_bind hbehind.yields_visit (exists_yields_bind hnamedWalk ?_)
      refine exists_yields_bind hcolumnsWalk (exists_yields_bind hlisted.yields_tryCut ?_)
      refine exists_yields_bind (yields_keywordWalk "AS" _) ?_
      simp only [Option.bind_eq_bind, Option.bind_some]
      generalize (afterParens? _).getD _ = listed at hlisted
      rw [startsWithKeyword, show "AS".toList = ['A', 'S'] from rfl]
      cases hword : Sql.afterKeyword? ['A', 'S'] listed with
      | none => exact ⟨none, .pure none, .none⟩
      | some afterAs =>
          obtain ⟨body, hbodyWalk, hbody⟩ := (hlisted.afterKeyword? "AS" hword).yields_silenceWalk
          exact exists_yields_bind hbodyWalk hbody.yields_groupWalk?

/-- Whether the named queries are well formed, and what is left behind them.  What is left tells
that the walk comes to an end before `fuel` does. -/
lemma Leaves.yields_queriesWalk {fuel : Nat} (h : Leaves text i rest) (hfuel : rest.length < fuel) :
    ∃ next?, (queriesWalk text i).Yields next? ∧
      Option.Rel (Leaves text) next? (afterNamedQueries? fuel rest) := by
  induction fuel generalizing i rest with
  | zero => exact absurd hfuel (Nat.not_lt_zero _)
  | succ fuel ih =>
      obtain ⟨next?, hwalk, hrel⟩ := h.yields_namedQueryWalk
      rw [queriesWalk, afterNamedQueries?]
      generalize afterNamedQuery? rest = after? at hrel
      cases hrel with
      | none => exact ⟨none, hwalk.goOn (.pure none), .none⟩
      | @some next more hnext =>
          have hlength := h.length_le hnext (le_of_namedQueryWalk hwalk.result)
          have hcomma := hnext.getElem?_eq_some (d := ',') (by decide)
          by_cases hhead : more.head? = some ','
          · obtain ⟨others, rfl⟩ := List.head?_eq_some_iff.mp hhead
            rw [List.length_cons] at hlength
            obtain ⟨last?, hothers, hlast⟩ := ih (hnext.cons_ascii (by decide)) (by omega)
            refine ⟨last?, hwalk.goOn ?_, hlast⟩
            simp only [dif_pos (hcomma.mpr hhead)]
            exact hothers
          · refine ⟨some next, hwalk.goOn ?_, ?_⟩
            · simp only [dif_neg (mt hcomma.mp hhead)]
              exact .pure _
            · split
              · rename_i others hmore
                exact absurd (Option.some.inj hmore ▸ rfl) hhead
              · rename_i hmore
                exact Option.some.inj hmore ▸ .some hnext
              · rename_i hmore
                cases hmore

/-- **The statement behind the named queries is found by places.** -/
lemma yields_mainWalk {text rest : List Char}
    (h : Sql.afterKeyword? "WITH".toList text = some rest) :
    (mainWalk text).Yields (mainStatement rest) := by
  obtain ⟨start, hstartWalk, hstart⟩ :=
    ((leaves_zero text).afterKeyword? "WITH" h).yields_silenceWalk
  rw [Nat.zero_add] at hstartWalk
  rw [mainWalk, mainStatement]
  refine hstartWalk.bind (hstart.yields_tryCut.bind ((yields_keywordWalk "RECURSIVE" _).bind ?_))
  have hfirst : Leaves text
      (if startsWithKeyword "RECURSIVE" (dropSilence rest) then start + "RECURSIVE".utf8ByteSize
        else start)
      ((Sql.afterKeyword? "RECURSIVE".toList (dropSilence rest)).getD (dropSilence rest)) := by
    rw [startsWithKeyword]
    cases hword : Sql.afterKeyword? "RECURSIVE".toList (dropSilence rest) with
    | none => exact hstart
    | some behind => exact hstart.afterKeyword? "RECURSIVE" hword
  obtain ⟨next?, hqueriesWalk, hqueries⟩ := hfirst.yields_queriesWalk (Nat.lt_succ_self _)
  refine hqueriesWalk.bind ?_
  generalize afterNamedQueries? _ _ = after? at hqueries
  cases hqueries with
  | none => exact .pure []
  | some hnext => exact hnext.yields_tryCut.bind (yields_firstWordWalk _)

end Queries

/-! ## Kinds -/

section Kinds

variable {α : Type} {walk yes no : Walk α} {isWord : Walk Bool} {a b : α} {word : Bool}

lemma Walk.Yields.ite (h : isWord.Yields word) (hyes : yes.Yields a) (hno : no.Yields b) :
    (isWord >>= fun found => if found = true then yes else no).Yields
      (if word = true then a else b) := by
  refine h.bind ?_
  cases word with
  | false => exact hno
  | true => exact hyes

lemma Walk.Yields.or {isOther : Walk Bool} {other : Bool} (h : isWord.Yields word)
    (hother : isOther.Yields other) : (isWord <||> isOther).Yields (word || other) := by
  refine h.bind ?_
  cases word with
  | false => exact hother
  | true => exact .pure true

end Kinds

/-- **The kind is told by places.** -/
lemma yields_kindWalk (text : List Char) : (kindWalk text).Yields (kindOfStatement text) :=
  (yields_keywordWalk "SELECT" text).ite (.pure _) <|
    ((yields_keywordWalk "INSERT" text).or (yields_keywordWalk "REPLACE" text)).ite (.pure _) <|
      (yields_keywordWalk "UPDATE" text).ite (.pure _) <|
        (yields_keywordWalk "DELETE" text).ite (.pure _) (.pure _)

lemma yields_classifyWalk (sql : String) : (classifyWalk sql).Yields (classify sql) := by
  rw [classifyWalk, classify, decidingStatement]
  refine (yields_firstWordWalk _).bind ((yields_keywordWalk "WITH" _).bind ?_)
  generalize fromFirstWord sql.toList = start
  rw [startsWithKeyword]
  cases hwith : afterKeyword? "WITH".toList start with
  | none => exact yields_kindWalk start
  | some rest => exact (yields_mainWalk hwith).bind (yields_kindWalk _)

/-- Where a boundary is left, one is come to. -/
lemma isValid_ends {text : String} {i : Nat} (h : (⟨i⟩ : String.Pos.Raw).IsValid text) :
    (⟨silenceEnd (bytesOf text) i⟩ : String.Pos.Raw).IsValid text ∧
      (⟨groupEnd (bytesOf text) i⟩ : String.Pos.Raw).IsValid text ∧
      ∀ next, nameEnd? (bytesOf text) i = some next → (⟨next⟩ : String.Pos.Raw).IsValid text := by
  rw [← String.ofList_toList (s := text)] at h ⊢
  obtain ⟨rest, hrest⟩ := exists_leaves h
  refine ⟨hrest.silenceEnd.isValid, hrest.groupEndFrom.isValid, fun next hnext => ?_⟩
  have hname := hrest.nameEnd?
  rw [hnext] at hname
  generalize afterName? rest = behind? at hname
  obtain ⟨hbehind⟩ := hname
  exact hbehind.isValid

/-- **A statement is cut at boundaries only.**  The walk finds the kind of every statement, and so
it never cuts where it cannot.  Every place that it comes to is at most the number of bytes of the
text in which it is, and lies between two characters; so the text can be cut there, and nothing is
put in place of what is behind.  The walk over silence, over a group and over a name comes from any
boundary to a boundary, whatever the text. -/
theorem classifyWalk_cuts_at_boundaries (sql : String) :
    (classifyWalk sql).result = some (classify sql) ∧
      (∀ place ∈ (classifyWalk sql).places, place.offset.IsValid place.text ∧
        (Text.cutAt? place.offset.byteIdx place.text.toList).isSome = true) ∧
      ∀ (text : String) (i : Nat), (⟨i⟩ : String.Pos.Raw).IsValid text →
        (⟨silenceEnd (bytesOf text) i⟩ : String.Pos.Raw).IsValid text ∧
          (⟨groupEnd (bytesOf text) i⟩ : String.Pos.Raw).IsValid text ∧
          ∀ next, nameEnd? (bytesOf text) i = some next →
            (⟨next⟩ : String.Pos.Raw).IsValid text := by
  obtain ⟨hresult, hplaces⟩ := yields_classifyWalk sql
  refine ⟨hresult, fun place hplace => ⟨hplaces place hplace, ?_⟩, fun _ _ => isValid_ends⟩
  rw [← Text.isValid_iff_cutAt?, String.ofList_toList]
  exact hplaces place hplace

/-- The name has two bytes for each of its accents, and the backslash makes the walk jump into the
middle of a third.  The group ends at a boundary all the same. -/
theorem classifyWalk_cuts_at_boundaries_of_escape :
    let sql := "WITH été AS (SELECT '\\é)') SELECT 1"
    (classifyWalk sql).result = some .select ∧ ¬(⟨25⟩ : String.Pos.Raw).IsValid sql ∧
      insideEnd '\''.toUInt8 (bytesOf sql) 23 = insideEnd '\''.toUInt8 (bytesOf sql) 25 ∧
      ⟨sql, ⟨29⟩⟩ ∈ (classifyWalk sql).places ∧ (⟨29⟩ : String.Pos.Raw).IsValid sql ∧
      nameEnd? (bytesOf sql) 5 = some 10 ∧ (⟨10⟩ : String.Pos.Raw).IsValid sql := by
  intro sql
  obtain ⟨hresult, hplaces, hends⟩ := classifyWalk_cuts_at_boundaries sql
  have hkind : classify sql = .select := by decide +kernel
  have hmem : ⟨sql, ⟨29⟩⟩ ∈ (classifyWalk sql).places := by decide +kernel
  have hname : nameEnd? (bytesOf sql) 5 = some 10 := by decide +kernel
  refine ⟨hresult.trans (congrArg some hkind), by decide +kernel, by decide +kernel, hmem,
    (hplaces _ hmem).1, hname, ?_⟩
  exact (hends sql 5 (by decide +kernel)).2.2 10 hname

end SqlAccess.Sql
