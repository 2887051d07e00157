import SqlAccess.Proofs.Sql.DuplicateClause
import SqlAccess.Proofs.Sql.Groups
import SqlAccess.Proofs.Sql.LeadingComments

/-!
# Statements in lower case

Keywords compare without regard to case, and whatever else a statement is read by is no letter:
quotation marks, parentheses, the marks of comments, blanks.  So each step of the reading does the
same to a text in lower case: what it leaves is the lower case of what it leaves of the text.  There
is one lemma for each step, and they compose as the steps do.

**`Sql.reading_of_asciiLower_eq`** — statements that differ only in the case of ASCII letters are of
the same kind, and one of them holds several statements exactly if the other does.
-/

namespace SqlAccess.Sql

/-! ## Characters -/

lemma toLower_eq_self {c : Char} (h : c.isAlpha = false) : c.toLower = c := by
  refine dif_neg fun hupper => ?_
  exact Bool.eq_false_iff.mp h (Bool.or_eq_true_iff.mpr (.inl (decide_eq_true hupper)))

/-- What gives the same for both cases of every ASCII letter gives the same for every character and
its lower case. -/
lemma apply_toLower {α : Type} [DecidableEq α] {f : Char → α}
    (hf : ∀ n : Fin 128, f (Char.ofNat n).toLower = f (Char.ofNat n)) (c : Char) :
    f c.toLower = f c := by
  by_cases hc : c.toNat < 128
  · have hall := Text.ascii_forall (p := fun d => decide (f d.toLower = f d)) (by simpa using hf) hc
    exact of_decide_eq_true hall
  · rw [toLower_eq_self]
    exact Bool.eq_false_iff.mpr fun halpha => hc (Text.toNat_lt_of_isAlpha halpha)

/-- A character that is no letter has no other case. -/
lemma toLower_eq_iff {c d : Char} (hd : d.isAlpha = false) : c.toLower = d ↔ c = d := by
  constructor
  · intro h
    have hc : c.isAlpha = false := by
      rw [← apply_toLower (f := Char.isAlpha) (by decide) c, h, hd]
    rw [← h, toLower_eq_self hc]
  · rintro rfl
    exact toLower_eq_self hd

lemma isBlank_toLower (c : Char) : Text.isBlank c.toLower = Text.isBlank c :=
  apply_toLower (by decide) c

lemma isAsciiBlank_toLower (c : Char) : Text.isAsciiBlank c.toLower = Text.isAsciiBlank c :=
  apply_toLower (by decide) c

lemma isQuote_toLower (c : Char) : isQuote c.toLower = isQuote c :=
  apply_toLower (by decide) c

/-- A text with its ASCII letters in lower case. -/
def lowered (text : List Char) : List Char :=
  text.map Char.toLower

@[simp]
lemma lowered_nil : lowered [] = [] := rfl

@[simp]
lemma lowered_cons (c : Char) (text : List Char) :
    lowered (c :: text) = c.toLower :: lowered text := rfl

@[simp]
lemma length_lowered (text : List Char) : (lowered text).length = text.length :=
  List.length_map _

/-- A mark that is no letter stands in the lower case of a text where it stands in the text. -/
lemma lowered_eq_cons {text rest : List Char} {d : Char} (hd : d.isAlpha = false)
    (h : lowered text = d :: rest) : ∃ more, text = d :: more ∧ lowered more = rest := by
  obtain ⟨c, more, rfl, hc, hrest⟩ := List.map_eq_cons_iff.mp h
  exact ⟨more, by rw [(toLower_eq_iff hd).mp hc], hrest⟩

lemma lowered_eq_cons_cons {text rest : List Char} {d e : Char} (hd : d.isAlpha = false)
    (he : e.isAlpha = false) (h : lowered text = d :: e :: rest) :
    ∃ more, text = d :: e :: more ∧ lowered more = rest := by
  obtain ⟨others, rfl, hothers⟩ := lowered_eq_cons hd h
  obtain ⟨more, rfl, hrest⟩ := lowered_eq_cons he hothers
  exact ⟨more, rfl, hrest⟩

section Steps

variable {after? : List Char → Option (List Char)}
  (hafter : ∀ text, after? (lowered text) = (after? text).map lowered) {text : List Char}

include hafter

lemma lowered_eq_some {rest : List Char} (h : after? text = some rest) :
    after? (lowered text) = some (lowered rest) := by
  rw [hafter, h, Option.map_some]

lemma lowered_eq_none (h : after? text = none) : after? (lowered text) = none := by
  rw [hafter, h, Option.map_none]

end Steps

/-! ## Comments and quoted pieces -/

lemma afterLine_lowered (text : List Char) :
    afterLine (lowered text) = lowered (afterLine text) := by
  induction text with
  | nil => rfl
  | cons c text ih =>
      simp (disch := decide) only [lowered_cons, afterLine, toLower_eq_iff, ih]
      split_ifs <;> rfl

lemma afterBlock_lowered (text : List Char) :
    afterBlock (lowered text) = lowered (afterBlock text) := by
  fun_induction afterBlock text with
  | case1 => rfl
  | case2 => rfl
  | case3 c d text hend =>
      obtain ⟨rfl, rfl⟩ := hend
      rfl
  | case4 c d text hend ih =>
      rw [lowered_cons] at ih
      simp (disch := decide) only [lowered_cons, afterBlock, toLower_eq_iff, if_neg hend, ih]

lemma afterComment?_lowered (text : List Char) :
    afterComment? (lowered text) = (afterComment? text).map lowered := by
  fun_cases afterComment? text with
  | case1 text => exact congrArg some (afterLine_lowered text)
  | case2 => rfl
  | case3 c text hblank =>
      show (if Text.isAsciiBlank c.toLower then some (afterLine (lowered (c :: text)))
        else none) = _
      rw [isAsciiBlank_toLower, if_pos hblank, afterLine_lowered, Option.map_some]
  | case4 c text hblank =>
      show (if Text.isAsciiBlank c.toLower then some (afterLine (lowered (c :: text)))
        else none) = _
      rw [isAsciiBlank_toLower, if_neg hblank, Option.map_none]
  | case5 text => exact congrArg some (afterBlock_lowered text)
  | case6 text hhash hend hminus hslash =>
      -- A mark of a comment in the lower case is one in the text, where there is none.
      unfold afterComment?
      split
      · rename_i h
        obtain ⟨more, rfl, -⟩ := lowered_eq_cons (by decide) h
        exact absurd rfl (hhash more)
      · rename_i h
        obtain ⟨more, rfl, hmore⟩ := lowered_eq_cons_cons (by decide) (by decide) h
        obtain rfl := List.map_eq_nil_iff.mp hmore
        exact absurd rfl hend
      · rename_i h
        obtain ⟨more, rfl, hmore⟩ := lowered_eq_cons_cons (by decide) (by decide) h
        obtain ⟨c, more, rfl, -⟩ := List.map_eq_cons_iff.mp hmore
        exact absurd rfl (hminus c more)
      · rename_i h
        obtain ⟨more, rfl, -⟩ := lowered_eq_cons_cons (by decide) (by decide) h
        exact absurd rfl (hslash more)
      · rfl

lemma isAlpha_of_isQuote {quote : Char} (h : isQuote quote = true) : quote.isAlpha = false := by
  simp only [isQuote, Bool.or_eq_true, beq_iff_eq] at h
  rcases h with (rfl | rfl) | rfl <;> decide

lemma afterQuoted_lowered {quote : Char} (hquote : isQuote quote = true) (text : List Char) :
    afterQuoted quote (lowered text) = lowered (afterQuoted quote text) := by
  have hletter := isAlpha_of_isQuote hquote
  fun_induction afterQuoted quote text with
  | case1 => rfl
  | case2 => rfl
  | case3 c d text hescape ih =>
      simp (disch := decide) only [lowered_cons, afterQuoted, toLower_eq_iff, if_pos hescape, ih]
  | case4 text hescape ih =>
      have hself := toLower_eq_self hletter
      simp only [lowered_cons, afterQuoted, hself, if_neg hescape, if_true, ih]
  | case5 d text hd hescape =>
      have hself := toLower_eq_self hletter
      simp (disch := assumption) only [lowered_cons, afterQuoted, hself, if_neg hescape, if_true,
        toLower_eq_iff, if_neg hd]
  | case6 c d text hescape hc ih =>
      rw [lowered_cons] at ih
      have hslash : c.toLower = '\\' ↔ c = '\\' := toLower_eq_iff (by decide)
      have hquote : c.toLower = quote ↔ c = quote := toLower_eq_iff hletter
      simp only [lowered_cons, afterQuoted, hslash, hquote, if_neg hescape, if_neg hc, ih]

lemma afterQuote?_lowered (text : List Char) :
    afterQuote? (lowered text) = (afterQuote? text).map lowered := by
  cases text with
  | nil => rfl
  | cons c text =>
      rw [lowered_cons, afterQuote?, afterQuote?, isQuote_toLower]
      split_ifs with hquote
      · rw [toLower_eq_self (isAlpha_of_isQuote hquote), afterQuoted_lowered hquote,
          Option.map_some]
      · rfl

/-! ## Pieces -/

/-- A piece with its character in lower case. -/
def Lexeme.lowered : Lexeme → Lexeme
  | .plain c => .plain c.toLower
  | piece => piece

lemma lexemes_of_afterComment? {text rest : List Char} (h : afterComment? text = some rest) :
    lexemes text = .comment :: lexemes rest := by
  cases text with
  | nil => cases h
  | cons c text =>
      rw [lexemes]
      split <;> simp_all

lemma lexemes_of_afterQuote? {text rest : List Char} (hcomment : afterComment? text = none)
    (h : afterQuote? text = some rest) : lexemes text = .quoted :: lexemes rest := by
  cases text with
  | nil => cases h
  | cons c text =>
      rw [lexemes]
      split
      · simp_all
      · split <;> simp_all

lemma lexemes_lowered (text : List Char) :
    lexemes (lowered text) = (lexemes text).map Lexeme.lowered := by
  fun_induction lexemes text with
  | case1 => simp [lexemes]
  | case2 c text rest hcomment ih =>
      rw [lexemes_of_afterComment? (lowered_eq_some afterComment?_lowered hcomment), ih]
      rfl
  | case3 c text hcomment rest hquote ih =>
      rw [lexemes_of_afterQuote? (lowered_eq_none afterComment?_lowered hcomment)
        (lowered_eq_some afterQuote?_lowered hquote), ih]
      rfl
  | case4 c text hcomment hquote ih =>
      have hlowered := lowered_eq_none afterComment?_lowered hcomment
      have hpiece : isQuote c.toLower = false := by simpa [afterQuote?, isQuote_toLower] using hquote
      rw [lowered_cons] at hlowered ⊢
      rw [lexemes_plain hlowered hpiece, ih]
      rfl

lemma isSilent_lowered (piece : Lexeme) : piece.lowered.isSilent = piece.isSilent := by
  cases piece with
  | plain c => exact isAsciiBlank_toLower c
  | _ => rfl

lemma lowered_beq_semicolon (piece : Lexeme) :
    (piece.lowered == .plain ';') = (piece == .plain ';') := by
  cases piece with
  | plain c => exact apply_toLower (f := fun d => Lexeme.plain d == .plain ';') (by decide) c
  | _ => rfl

lemma goesOn_lowered (ended : Bool) (pieces : List Lexeme) :
    goesOn ended (pieces.map Lexeme.lowered) = goesOn ended pieces := by
  induction pieces generalizing ended with
  | nil => rfl
  | cons piece pieces ih =>
      rw [List.map_cons, goesOn_cons, goesOn_cons, ih, isSilent_lowered, lowered_beq_semicolon]

/-! ## The first word -/

lemma dropWord?_lowered (word text : List Char) :
    Text.dropWord? word (lowered text) = (Text.dropWord? word text).map lowered := by
  induction word generalizing text with
  | nil => rfl
  | cons w word ih =>
      cases text with
      | nil => rfl
      | cons c text =>
          have hsame : Text.sameLetter w c.toLower = Text.sameLetter w c := by
            rw [Text.sameLetter, apply_toLower (f := Char.toLower) (by decide) c, Text.sameLetter]
          rw [lowered_cons, Text.dropWord?, Text.dropWord?, hsame]
          split_ifs
          · exact ih text
          · rfl

lemma afterKeyword?_lowered (keyword text : List Char) :
    afterKeyword? keyword (lowered text) = (afterKeyword? keyword text).map lowered := by
  rw [afterKeyword?, afterKeyword?, dropWord?_lowered]
  cases Text.dropWord? keyword text with
  | none => rfl
  | some rest =>
      cases rest with
      | nil => rfl
      | cons c rest =>
          have hword := apply_toLower (f := fun d => d.isAlphanum || d == '_') (by decide) c
          simp only [Option.map_some, lowered_cons, hword]
          split_ifs <;> rfl

lemma startsWithKeyword_lowered (keyword : String) (text : List Char) :
    startsWithKeyword keyword (lowered text) = startsWithKeyword keyword text := by
  rw [startsWithKeyword, startsWithKeyword, afterKeyword?_lowered, Option.isSome_map]

lemma afterLead?_lowered (text : List Char) :
    afterLead? (lowered text) = (afterLead? text).map lowered := by
  fun_cases afterLead? text with
  | case1 text => exact congrArg some (afterLine_lowered text)
  | case2 text => exact congrArg some (afterLine_lowered text)
  | case3 text => exact congrArg some (afterBlock_lowered ('*' :: text))
  | case4 text => rfl
  | case5 text hminus hhash hslash hopen =>
      unfold afterLead?
      split
      · rename_i h
        obtain ⟨more, rfl, -⟩ := lowered_eq_cons_cons (by decide) (by decide) h
        exact absurd rfl (hminus more)
      · rename_i h
        obtain ⟨more, rfl, -⟩ := lowered_eq_cons (by decide) h
        exact absurd rfl (hhash more)
      · rename_i h
        obtain ⟨more, rfl, -⟩ := lowered_eq_cons_cons (by decide) (by decide) h
        exact absurd rfl (hslash more)
      · rename_i h
        obtain ⟨more, rfl, -⟩ := lowered_eq_cons (by decide) h
        exact absurd rfl (hopen more)
      · rfl

/-- Characters are dropped in either case. -/
lemma dropWhile_lowered {p : Char → Bool} (hp : ∀ c : Char, p c.toLower = p c) (text : List Char) :
    (lowered text).dropWhile p = lowered (text.dropWhile p) := by
  have hsame : p ∘ Char.toLower = p := funext hp
  rw [lowered, lowered, List.dropWhile_map, hsame]

lemma dropBlanks_lowered (text : List Char) :
    Text.dropBlanks (lowered text) = lowered (Text.dropBlanks text) :=
  dropWhile_lowered isBlank_toLower text

lemma fromFirstWord_lowered (text : List Char) :
    fromFirstWord (lowered text) = lowered (fromFirstWord text) := by
  fun_induction fromFirstWord text with
  | case1 text start rest hlead ih =>
      have hlowered := lowered_eq_some afterLead?_lowered hlead
      rw [← dropBlanks_lowered] at hlowered
      rw [fromFirstWord_of_some hlowered, ih]
  | case2 text start hlead =>
      have hlowered := lowered_eq_none afterLead?_lowered hlead
      rw [← dropBlanks_lowered] at hlowered
      rw [fromFirstWord_of_none hlowered, dropBlanks_lowered]

/-! ## Named queries -/

lemma dropSilence_lowered (text : List Char) :
    dropSilence (lowered text) = lowered (dropSilence text) := by
  fun_induction dropSilence text with
  | case1 => rw [lowered_nil, dropSilence]
  | case2 c text rest hcomment ih =>
      rw [dropSilence_of_afterComment? (lowered_eq_some afterComment?_lowered hcomment), ih]
  | case3 c text hcomment hblank ih =>
      have hlowered := lowered_eq_none afterComment?_lowered hcomment
      rw [lowered_cons] at hlowered ⊢
      rw [dropSilence_of_afterComment?_eq_none hlowered, isAsciiBlank_toLower, if_pos hblank, ih]
  | case4 c text hcomment hblank =>
      have hlowered := lowered_eq_none afterComment?_lowered hcomment
      rw [lowered_cons] at hlowered ⊢
      rw [dropSilence_of_afterComment?_eq_none hlowered, isAsciiBlank_toLower, if_neg hblank]

lemma afterGroup_lowered (depth : Nat) (text : List Char) :
    afterGroup depth (lowered text) = lowered (afterGroup depth text) := by
  fun_induction afterGroup depth text with
  | case1 depth => rw [lowered_nil, afterGroup]
  | case2 depth c text rest hcomment ih =>
      rw [afterGroup_of_afterComment? (lowered_eq_some afterComment?_lowered hcomment), ih]
  | case3 depth c text hcomment rest hquote ih =>
      rw [afterGroup_of_afterQuote? (lowered_eq_some afterQuote?_lowered hquote), ih]
  | case4 depth text _ _ ih => exact (afterGroup_open depth (lowered text)).trans ih
  | case5 depth text hdepth =>
      exact (afterGroup_close depth (lowered text)).trans (if_pos hdepth)
  | case6 depth text hdepth _ _ _ ih =>
      exact (afterGroup_close depth (lowered text)).trans ((if_neg hdepth).trans ih)
  | case7 depth c text hcomment hquote hopen hclose ih =>
      have hlowered := lowered_eq_none afterComment?_lowered hcomment
      have hpiece : isQuote c.toLower = false := by simpa [afterQuote?, isQuote_toLower] using hquote
      rw [lowered_cons] at hlowered ⊢
      rw [afterGroup_of_none hlowered hpiece]
      simp (disch := decide) only [toLower_eq_iff, if_neg hopen, if_neg hclose, ih]

lemma afterName?_lowered (text : List Char) :
    afterName? (lowered text) = (afterName? text).map lowered := by
  rw [afterName?, afterName?, afterQuote?_lowered]
  cases afterQuote? text with
  | some rest => rfl
  | none =>
      have hname := dropWhile_lowered (apply_toLower (f := isNameChar) (by decide)) text
      simp only [Option.map_none, hname, length_lowered]
      split_ifs <;> rfl

lemma afterParens?_lowered (text : List Char) :
    afterParens? (lowered text) = (afterParens? text).map lowered := by
  fun_cases afterParens? text with
  | case1 text =>
      show some (dropSilence (afterGroup 1 (lowered text))) = _
      rw [afterGroup_lowered, dropSilence_lowered, Option.map_some]
  | case2 text hopen =>
      unfold afterParens?
      split
      · rename_i h
        obtain ⟨more, rfl, -⟩ := lowered_eq_cons (by decide) h
        exact absurd rfl (hopen more)
      · rfl

lemma afterNamedQuery?_lowered (text : List Char) :
    afterNamedQuery? (lowered text) = (afterNamedQuery? text).map lowered := by
  rw [afterNamedQuery?, afterNamedQuery?, dropSilence_lowered, afterName?_lowered]
  cases afterName? (dropSilence text) with
  | none => rfl
  | some rest =>
      simp only [Option.map_some, Option.bind_eq_bind, Option.bind_some, dropSilence_lowered,
        afterParens?_lowered, Option.getD_map, afterKeyword?_lowered]
      generalize (afterParens? (dropSilence rest)).getD (dropSilence rest) = behind
      cases afterKeyword? ['A', 'S'] behind with
      | none => rfl
      | some body =>
          exact (congrArg afterParens? (dropSilence_lowered body)).trans (afterParens?_lowered _)

lemma afterNamedQueries?_lowered (fuel : Nat) (text : List Char) :
    afterNamedQueries? fuel (lowered text) = (afterNamedQueries? fuel text).map lowered := by
  induction fuel generalizing text with
  | zero => rfl
  | succ fuel ih =>
      rw [afterNamedQueries?, afterNamedQueries?, afterNamedQuery?_lowered]
      cases afterNamedQuery? text with
      | none => rfl
      | some rest =>
          cases rest with
          | nil => rfl
          | cons c rest =>
              by_cases hcomma : c = ','
              · subst hcomma
                exact ih rest
              · have hlowered : c.toLower ≠ ',' := by rwa [Ne, toLower_eq_iff (by decide)]
                simp [hcomma, hlowered]

lemma mainStatement_lowered (text : List Char) :
    mainStatement (lowered text) = lowered (mainStatement text) := by
  simp only [mainStatement, dropSilence_lowered, afterKeyword?_lowered, Option.getD_map,
    length_lowered, afterNamedQueries?_lowered]
  cases afterNamedQueries? _ _ with
  | none => rfl
  | some rest => exact fromFirstWord_lowered rest

/-! ## Kinds -/

lemma blankWordsFrom_lowered (word text : List Char) :
    Text.blankWordsFrom (lowered word) (lowered text) =
      (Text.blankWordsFrom word text).map lowered := by
  have hempty (word : List Char) : (lowered word).isEmpty = word.isEmpty := List.isEmpty_map
  fun_induction Text.blankWordsFrom word text with
  | case1 word hword =>
      rw [lowered_nil, Text.blankWordsFrom, if_pos (by rwa [hempty]), List.map_nil]
  | case2 word hword =>
      rw [lowered_nil, Text.blankWordsFrom, if_neg (by rwa [hempty]), List.map_singleton]
  | case3 word c text hblank hword ih =>
      rw [lowered_cons, Text.blankWordsFrom, if_pos (by rwa [isBlank_toLower]),
        if_pos (by rwa [hempty])]
      exact ih
  | case4 word c text hblank hword ih =>
      rw [lowered_cons, Text.blankWordsFrom, if_pos (by rwa [isBlank_toLower]),
        if_neg (by rwa [hempty]), List.map_cons]
      exact congrArg (lowered word :: ·) ih
  | case5 word c text hblank ih =>
      have hword : lowered (word ++ [c]) = lowered word ++ [c.toLower] := List.map_append
      rw [lowered_cons, Text.blankWordsFrom, if_neg (by rwa [isBlank_toLower]), ← hword, ih]

lemma intercalate_lowered (separator : List Char) (texts : List (List Char)) :
    (lowered separator).intercalate (texts.map lowered) =
      lowered (separator.intercalate texts) := by
  induction texts with
  | nil => rfl
  | cons text texts ih =>
      by_cases hnone : texts = []
      · rw [hnone, List.map_singleton, List.intercalate_singleton, List.intercalate_singleton]
      · rw [List.map_cons, List.intercalate_cons_of_ne_nil (by simpa using hnone), ih,
          List.intercalate_cons_of_ne_nil hnone]
        simp [lowered]

lemma squeezed_lowered (text : List Char) :
    Text.squeezed (lowered text) = lowered (Text.squeezed text) :=
  (congrArg [' '].intercalate (blankWordsFrom_lowered [] text)).trans (intercalate_lowered [' '] _)

lemma holdsDuplicateClause_lowered (text : List Char) :
    holdsDuplicateClause (lowered text) = holdsDuplicateClause text := by
  have hupper : Char.toUpper ∘ Char.toLower = Char.toUpper :=
    funext (apply_toLower (f := Char.toUpper) (by decide))
  rw [Bool.eq_iff_iff, holdsDuplicateClause_iff, holdsDuplicateClause_iff, squeezed_lowered,
    lowered, List.map_map, hupper]

lemma kindOfStatement_lowered (text : List Char) :
    kindOfStatement (lowered text) = kindOfStatement text := by
  simp only [kindOfStatement, startsWithKeyword_lowered, holdsDuplicateClause_lowered]

lemma decidingStatement_lowered (text : List Char) :
    decidingStatement (lowered text) = lowered (decidingStatement text) := by
  rw [decidingStatement, decidingStatement, fromFirstWord_lowered, afterKeyword?_lowered]
  cases afterKeyword? "WITH".toList (fromFirstWord text) with
  | none => rfl
  | some rest => exact mainStatement_lowered rest

lemma classify_asciiLower (sql : String) : classify (Text.asciiLower sql) = classify sql := by
  rw [classify, classify, Text.asciiLower, String.toList_ofList]
  exact (congrArg kindOfStatement (decidingStatement_lowered _)).trans (kindOfStatement_lowered _)

lemma holdsSeveral_asciiLower (sql : String) :
    holdsSeveral (Text.asciiLower sql) = holdsSeveral sql := by
  rw [holdsSeveral_eq, holdsSeveral_eq, Text.asciiLower, String.toList_ofList]
  exact (congrArg (goesOn false) (lexemes_lowered _)).trans (goesOn_lowered false _)

/-- **How a statement is read does not depend on the case of its ASCII letters.** -/
theorem reading_of_asciiLower_eq {s t : String} (h : Text.asciiLower s = Text.asciiLower t) :
    classify s = classify t ∧ holdsSeveral s = holdsSeveral t := by
  constructor
  · rw [← classify_asciiLower s, h, classify_asciiLower]
  · rw [← holdsSeveral_asciiLower s, h, holdsSeveral_asciiLower]

/-- A comment, a quoted name, a named query and the clause about duplicates in another case. -/
theorem reading_of_asciiLower_eq_of_namedQuery :
    let s := "/*A*/WITH `Q`AS(SELECT 1)INSERT A TABLE Q ON DUPLICATE\tKEY UPDATE B=1;DROP A"
    let t := "/*a*/With `q`as(select 1)Insert A table q On Duplicate\tKEY update b=1;drop A"
    Text.asciiLower s = Text.asciiLower t ∧ classify s = .upsert ∧ classify t = .upsert ∧
      holdsSeveral t = true := by
  intro s t
  have hsame : Text.asciiLower s = Text.asciiLower t := by decide +kernel
  obtain ⟨hkind, hseveral⟩ := reading_of_asciiLower_eq hsame
  have hs : classify s = .upsert := by decide +kernel
  have hmore : holdsSeveral s = true := by decide +kernel
  exact ⟨hsame, hs, hkind ▸ hs, hseveral ▸ hmore⟩

end SqlAccess.Sql
