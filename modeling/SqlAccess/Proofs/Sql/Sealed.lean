import Mathlib.Tactic.Common
import SqlAccess.Sql.Lexeme

/-!
# Sealed texts

A statement is put together from pieces: keywords, names, literals, numbers.  For the scan of the
whole to be the scan of the pieces one after the other, no piece may begin a comment, end the
statement, or leave a quoted piece open for what follows.  A text with these three properties is
called *sealed* here.

**The one thing to watch when two sealed texts meet** is a quoted piece at the end of the first: a
mark at the head of the second would be read as the doubled mark, and the piece would go on.  So
sealed texts may be joined whenever the second does not begin with a quotation mark
(`Sealed.append`), and statements put a blank, a comma, a point or a parenthesis there.

* `endsOutside` — whether the scan of a text ends outside of every quoted piece.
* `Sealed` — the texts that are made of calm characters, single minus signs and ended quoted
  pieces.
* **`Sealed.lexemes_append`** — behind a sealed text the scan starts afresh.
* `Sealed.lexemes_mem`, `Sealed.endsOutside`, `Sealed.goesOn_lexemes` — what the scan of a sealed
  text meets, where it ends, and what it says of several statements.
-/

namespace SqlAccess.Sql

/-! ## Where the scan ends -/

/-- What is left behind the mark that ends the quoted piece whose inside is at the head of a text,
if there is such a mark.  Where there is none, `afterQuoted` lets the piece take all that is left.
-/
def pastMark? (quote : Char) : List Char → Option (List Char)
  | [] => none
  | [c] => if c = quote then some [] else none
  | c :: d :: text =>
    if c = '\\' ∧ quote ≠ backtick then pastMark? quote text
    else if c = quote then if d = quote then pastMark? quote text else some (d :: text)
    else pastMark? quote (d :: text)

/-- The scan goes on behind the mark, or has come to the end without one. -/
lemma afterQuoted_eq (quote : Char) (text : List Char) :
    afterQuoted quote text = (pastMark? quote text).getD [] := by
  fun_induction pastMark? quote text <;> grind [afterQuoted]

lemma pastMark?_length {quote : Char} {text rest : List Char}
    (h : pastMark? quote text = some rest) : rest.length < text.length := by
  fun_induction pastMark? quote text <;> grind

/-- A mark that is found is found in a longer text too, unless what is added would double it. -/
lemma pastMark?_append {quote : Char} (hquote : quote ≠ '\\') {text rest more : List Char}
    (h : pastMark? quote text = some rest) (hmore : more.head? ≠ some quote) :
    pastMark? quote (text ++ more) = some (rest ++ more) := by
  fun_induction pastMark? quote text with
  | case1 => simp at h
  | case2 =>
      obtain rfl : rest = [] := by simpa using h.symm
      cases more with
      | nil => simp [pastMark?]
      | cons d more =>
          have hd : d ≠ quote := by simpa using hmore
          simp [pastMark?, hd, hquote]
  | case3 => simp at h
  | case4 c d text hc ih => simpa [pastMark?, hc] using ih h
  | case5 text hc ih => simpa [pastMark?, hquote] using ih h
  | case6 d text hd _ =>
      obtain rfl : d :: text = rest := by simpa using h
      simp [pastMark?, hquote, hd]
  | case7 c d text hc hq ih => simpa [pastMark?, hc, hq] using ih h

/-- A character that is neither the mark nor escapes what follows is a part of the piece. -/
lemma pastMark?_cons {quote c : Char} (hquote : c ≠ quote) (hescape : c = '\\' → quote = backtick)
    (text : List Char) : pastMark? quote (c :: text) = pastMark? quote text := by
  cases text with
  | nil => simp [pastMark?, hquote]
  | cons d text =>
      have hc : ¬(c = '\\' ∧ quote ≠ backtick) := fun h => h.2 (hescape h.1)
      simp only [pastMark?, if_neg hc, if_neg hquote]

lemma pastMark?_mark {quote : Char} (hquote : quote ≠ '\\') {text : List Char}
    (htext : text.head? ≠ some quote) : pastMark? quote (quote :: text) = some text := by
  cases text with
  | nil => simp [pastMark?]
  | cons d text =>
      have hd : d ≠ quote := by simpa using htext
      simp [pastMark?, hquote, hd]

/-- A piece that holds neither its mark nor a backslash ends with the first mark. -/
lemma pastMark?_simple {quote : Char} (hquote : quote ≠ '\\') {inside text : List Char}
    (hinside : ∀ c ∈ inside, c ≠ quote ∧ c ≠ '\\') (htext : text.head? ≠ some quote) :
    pastMark? quote (inside ++ quote :: text) = some text := by
  induction inside with
  | nil => exact pastMark?_mark hquote htext
  | cons c inside ih =>
      rw [List.forall_mem_cons] at hinside
      rw [List.cons_append, pastMark?_cons hinside.1.1 fun h => absurd h hinside.1.2]
      exact ih hinside.2

/-- Whether the scan of a text ends outside of every quoted piece. -/
def endsOutside : List Char → Bool
  | [] => true
  | c :: text =>
    match _comment : afterComment? (c :: text) with
    | some rest => endsOutside rest
    | none =>
      if isQuote c then
        match _mark : pastMark? c text with
        | some rest => endsOutside rest
        | none => false
      else endsOutside text
termination_by text => text.length
decreasing_by
  · exact afterComment?_length _comment
  · exact Nat.lt_succ_of_lt (pastMark?_length _mark)
  · exact Nat.lt_succ_self _

/-! ## Sealed texts -/

/-- Whether a character is read by itself whatever stands beside it, and ends no statement. -/
def isCalm (c : Char) : Bool :=
  !(isQuote c || c == ';' || c == '#' || c == '-' || c == '/')

/-- Whether all characters of a text are calm. -/
def Calm (text : List Char) : Prop := ∀ c ∈ text, isCalm c = true

instance (text : List Char) : Decidable (Calm text) :=
  decidable_of_iff (text.all isCalm = true) List.all_eq_true

lemma Calm.append {text more : List Char} (h : Calm text) (hmore : Calm more) :
    Calm (text ++ more) :=
  List.forall_mem_append.mpr ⟨h, hmore⟩

/-- What holds of none of the characters that are not calm holds of calm ones only. -/
lemma isCalm_of_all {p : Char → Bool}
    (hp : ['\'', '"', backtick, ';', '#', '-', '/'].all (fun d => !p d) = true) {c : Char}
    (h : p c = true) : isCalm c = true := by
  by_contra hc
  have hmem : c ∈ ['\'', '"', backtick, ';', '#', '-', '/'] := by
    simp only [isCalm, isQuote, Bool.not_eq_true', Bool.not_eq_false, Bool.or_eq_true,
      beq_iff_eq] at hc
    simpa [or_assoc] using hc
  simpa [h] using List.all_eq_true.mp hp c hmem

/-- Whether a text begins with a quotation mark. -/
def opensPiece : List Char → Bool
  | [] => false
  | c :: _ => isQuote c

/-- A text of calm characters, single minus signs and ended quoted pieces. -/
inductive Sealed : List Char → Prop where
  | nil : Sealed []
  | calm {c : Char} {text : List Char} (hc : isCalm c = true) (h : Sealed text) :
      Sealed (c :: text)
  /-- Two minus signs may begin a comment, and so may a last one with what follows. -/
  | minus {c : Char} {text : List Char} (hc : c ≠ '-') (h : Sealed (c :: text)) :
      Sealed ('-' :: c :: text)
  | piece {quote : Char} {body text : List Char} (hquote : isQuote quote = true)
      (hbody : pastMark? quote body = some text) (h : Sealed text) : Sealed (quote :: body)

/-- No mark is a backslash, which would escape itself. -/
lemma ne_backslash_of_isQuote {quote : Char} (h : isQuote quote = true) : quote ≠ '\\' := by
  rintro rfl
  simp [isQuote, backtick] at h

/-- A text that does not begin with a mark begins with no mark in particular. -/
lemma head?_ne_of_opensPiece {text : List Char} (h : opensPiece text = false) {quote : Char}
    (hquote : isQuote quote = true) : text.head? ≠ some quote := by
  cases text with
  | nil => simp
  | cons c text =>
      rintro hhead
      obtain rfl : c = quote := by simpa using hhead
      simp [opensPiece, hquote] at h

lemma Sealed.calm_append {word text : List Char} (hword : Calm word)
    (h : Sealed text) : Sealed (word ++ text) := by
  induction word with
  | nil => exact h
  | cons c word ih =>
      obtain ⟨hc, hrest⟩ := List.forall_mem_cons.mp hword
      exact .calm hc (ih hrest)

lemma Sealed.ofCalm {word : List Char} (hword : Calm word) : Sealed word := by
  simpa using Sealed.nil.calm_append hword

/-- **Sealed texts may be joined** where the second does not begin with a quotation mark. -/
theorem Sealed.append {text more : List Char} (h : Sealed text) (hmore : Sealed more)
    (hopens : opensPiece more = false) : Sealed (text ++ more) := by
  induction h with
  | nil => exact hmore
  | calm hc _ ih => exact .calm hc ih
  | minus hc _ ih => exact .minus hc ih
  | @piece quote body text hquote hbody _ ih =>
      have hmore := pastMark?_append (ne_backslash_of_isQuote hquote) hbody
        (head?_ne_of_opensPiece hopens hquote)
      exact .piece hquote hmore ih

lemma isCalm_iff {c : Char} : isCalm c = true ↔
    isQuote c = false ∧ c ≠ ';' ∧ c ≠ '#' ∧ c ≠ '-' ∧ c ≠ '/' := by
  simp [isCalm, and_assoc]

lemma opensPiece_calm {word : List Char} (hne : word ≠ []) (hword : Calm word)
    (text : List Char) : opensPiece (word ++ text) = false := by
  cases word with
  | nil => exact absurd rfl hne
  | cons c word => exact (isCalm_iff.mp (hword c List.mem_cons_self)).1

lemma Sealed.intercalate {separator : List Char} (hne : separator ≠ [])
    (hseparator : Calm separator) {texts : List (List Char)}
    (h : ∀ text ∈ texts, Sealed text) : Sealed (separator.intercalate texts) := by
  induction texts with
  | nil => exact .nil
  | cons text texts ih =>
      rw [List.forall_mem_cons] at h
      cases texts with
      | nil => simpa using h.1
      | cons next texts =>
          rw [List.intercalate_cons_cons, List.append_assoc]
          exact h.1.append ((ih h.2).calm_append hseparator) (opensPiece_calm hne hseparator _)

/-! ## What the scan meets -/

/-- Comments begin with one of three characters. -/
lemma afterComment?_eq_none {c : Char} (hhash : c ≠ '#') (hminus : c ≠ '-') (hslash : c ≠ '/')
    (text : List Char) : afterComment? (c :: text) = none := by
  unfold afterComment?
  split <;> simp_all

/-- A quotation mark begins no comment. -/
lemma afterComment?_of_isQuote {quote : Char} (hquote : isQuote quote = true) (text : List Char) :
    afterComment? (quote :: text) = none := by
  apply afterComment?_eq_none <;> rintro rfl <;> simp [isQuote, backtick] at hquote

lemma lexemes_piece {quote : Char} (hquote : isQuote quote = true) {body rest : List Char}
    (hbody : pastMark? quote body = some rest) :
    lexemes (quote :: body) = .quoted :: lexemes rest := by
  have hcomment := afterComment?_of_isQuote hquote body
  have hpiece : afterQuote? (quote :: body) = some rest := by
    simp [afterQuote?, hquote, afterQuoted_eq, hbody]
  rw [lexemes]
  split
  · simp_all
  · split <;> simp_all

lemma lexemes_plain {c : Char} {text : List Char} (hcomment : afterComment? (c :: text) = none)
    (hquote : isQuote c = false) : lexemes (c :: text) = .plain c :: lexemes text := by
  have hpiece : afterQuote? (c :: text) = none := by simp [afterQuote?, hquote]
  rw [lexemes]
  split
  · simp_all
  · split <;> simp_all

lemma endsOutside_piece {quote : Char} (hquote : isQuote quote = true) {body rest : List Char}
    (hbody : pastMark? quote body = some rest) :
    endsOutside (quote :: body) = endsOutside rest := by
  have hcomment := afterComment?_of_isQuote hquote body
  rw [endsOutside]
  split
  · simp_all
  · rw [if_pos hquote]
    split <;> simp_all

lemma endsOutside_plain {c : Char} {text : List Char}
    (hcomment : afterComment? (c :: text) = none) (hquote : isQuote c = false) :
    endsOutside (c :: text) = endsOutside text := by
  rw [endsOutside]
  split <;> simp_all

lemma afterComment?_calm {c : Char} (hc : isCalm c = true) (text : List Char) :
    afterComment? (c :: text) = none := by
  obtain ⟨-, -, hhash, hminus, hslash⟩ := isCalm_iff.mp hc
  exact afterComment?_eq_none hhash hminus hslash text

lemma afterComment?_minus {c : Char} (hc : c ≠ '-') (text : List Char) :
    afterComment? ('-' :: c :: text) = none := by
  unfold afterComment?
  split <;> simp_all

/-- **Behind a sealed text the scan starts afresh**, unless what follows begins with a quotation
mark. -/
theorem Sealed.lexemes_append {text more : List Char} (h : Sealed text)
    (hopens : opensPiece more = false) : lexemes (text ++ more) = lexemes text ++ lexemes more := by
  induction h with
  | nil => simp [lexemes]
  | calm hc _ ih =>
      have hquote := (isCalm_iff.mp hc).1
      rw [List.cons_append, lexemes_plain (afterComment?_calm hc _) hquote, ih,
        lexemes_plain (afterComment?_calm hc _) hquote, List.cons_append]
  | minus hc _ ih =>
      rw [List.cons_append, List.cons_append, lexemes_plain (afterComment?_minus hc _) rfl,
        ← List.cons_append, ih, lexemes_plain (afterComment?_minus hc _) rfl, List.cons_append]
  | @piece quote body text hquote hbody _ ih =>
      -- Only here it matters how `more` begins: its first mark must not double the last one.
      have hmore := pastMark?_append (ne_backslash_of_isQuote hquote) hbody
        (head?_ne_of_opensPiece hopens hquote)
      rw [List.cons_append, lexemes_piece hquote hmore, ih, lexemes_piece hquote hbody,
        List.cons_append]

/-- The scan of a sealed text meets no comment and no semicolon. -/
theorem Sealed.lexemes_mem {text : List Char} (h : Sealed text) {lexeme : Lexeme}
    (hmem : lexeme ∈ lexemes text) : lexeme ≠ .comment ∧ lexeme ≠ .plain ';' := by
  induction h with
  | nil => simp [lexemes] at hmem
  | calm hc _ ih =>
      obtain ⟨hquote, hend, -⟩ := isCalm_iff.mp hc
      rw [lexemes_plain (afterComment?_calm hc _) hquote, List.mem_cons] at hmem
      rcases hmem with rfl | hmem
      · simpa using hend
      · exact ih hmem
  | minus hc _ ih =>
      rw [lexemes_plain (afterComment?_minus hc _) rfl, List.mem_cons] at hmem
      rcases hmem with rfl | hmem
      · decide
      · exact ih hmem
  | piece hquote hbody _ ih =>
      rw [lexemes_piece hquote hbody, List.mem_cons] at hmem
      rcases hmem with rfl | hmem
      · decide
      · exact ih hmem

/-- The scan of a sealed text ends outside of every quoted piece. -/
theorem Sealed.endsOutside {text : List Char} (h : Sealed text) : endsOutside text = true := by
  induction h with
  | nil => simp [Sql.endsOutside]
  | calm hc _ ih =>
      rw [endsOutside_plain (afterComment?_calm hc _) (isCalm_iff.mp hc).1, ih]
  | minus hc _ ih => rw [endsOutside_plain (afterComment?_minus hc _) rfl, ih]
  | piece hquote hbody _ ih => rw [endsOutside_piece hquote hbody, ih]

/-! ## Several statements -/

/-- Pieces among which there is no semicolon leave the question open for what follows. -/
lemma goesOn_append {pieces more : List Lexeme} (h : ∀ piece ∈ pieces, piece ≠ .plain ';') :
    goesOn false (pieces ++ more) = goesOn false more := by
  induction pieces with
  | nil => rfl
  | cons piece pieces ih =>
      rw [List.forall_mem_cons] at h
      have hpiece : (piece == .plain ';') = false := by simpa using h.1
      simpa [goesOn, hpiece] using ih h.2

/-- **A sealed text is one statement at most**, and one that anything may be added to only behind a
semicolon of its own. -/
theorem Sealed.goesOn_lexemes {text more : List Char} (h : Sealed text)
    (hopens : opensPiece more = false) :
    goesOn false (lexemes (text ++ more)) = goesOn false (lexemes more) := by
  rw [h.lexemes_append hopens]
  exact goesOn_append fun piece hpiece => (h.lexemes_mem hpiece).2

end SqlAccess.Sql
