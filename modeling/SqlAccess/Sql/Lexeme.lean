import SqlAccess.Ident
import SqlAccess.Text.Ascii

/-!
# Comments, quoted pieces, and everything between

For what this library asks of a statement it is enough to know where comments and quoted pieces
begin and end; all other characters count one by one.  A `Lexeme` is one such piece, and `lexemes`
cuts a text into them from the left.  Statements that are sent are scanned by bytes instead, in
`SqlAccess.Sql.Scan`.

* A comment begins with `#`, with `--` before a blank or the end, or with `/*`.  The first two end
  with the line, the third with the next `*/` behind it; a comment that is not ended takes all that
  is left.
* A quoted piece begins with a single quote, a double quote or a backtick and ends with the same
  mark.  The mark written twice belongs to the piece, and so does any character behind a backslash,
  except between backticks, where a backslash means nothing.  A piece that is not ended takes all
  that is left.
-/

namespace SqlAccess.Sql

/-! ## Where pieces end -/

/-- What is left behind the current line. -/
def afterLine : List Char → List Char
  | [] => []
  | c :: text => if c = '\n' then text else afterLine text

/-- What is left behind the next `*/`. -/
def afterBlock : List Char → List Char
  | [] => []
  | [_] => []
  | c :: d :: text => if c = '*' ∧ d = '/' then text else afterBlock (d :: text)

/-- What is left behind the comment at the head of a text, if there is one. -/
def afterComment? : List Char → Option (List Char)
  | '#' :: text => some (afterLine text)
  | ['-', '-'] => some []
  | '-' :: '-' :: c :: text =>
    if Text.isAsciiBlank c then some (afterLine (c :: text)) else none
  | '/' :: '*' :: text => some (afterBlock text)
  | _ => none

/-- Whether a character opens a quoted piece. -/
def isQuote (c : Char) : Bool :=
  c == '\'' || c == '"' || c == backtick

/-- What is left behind the quoted piece whose inside is at the head of a text. -/
def afterQuoted (quote : Char) : List Char → List Char
  | [] => []
  | [_] => []
  | c :: d :: text =>
    if c = '\\' ∧ quote ≠ backtick then afterQuoted quote text
    else if c = quote then if d = quote then afterQuoted quote text else d :: text
    else afterQuoted quote (d :: text)

/-- What is left behind the quoted piece at the head of a text, if there is one. -/
def afterQuote? : List Char → Option (List Char)
  | [] => none
  | c :: text => if isQuote c then some (afterQuoted c text) else none

/-! ## What is left is shorter -/

/-- A line leaves no more than there was. -/
theorem afterLine_length (text : List Char) : (afterLine text).length ≤ text.length := by
  induction text with
  | nil => simp [afterLine]
  | cons c text ih => grind [afterLine]

/-- A block comment leaves no more than there was. -/
theorem afterBlock_length (text : List Char) : (afterBlock text).length ≤ text.length := by
  fun_induction afterBlock text <;> grind

/-- A comment takes at least one character. -/
theorem afterComment?_length {text rest : List Char} (h : afterComment? text = some rest) :
    rest.length < text.length := by
  unfold afterComment? at h
  split at h
  · cases h
    exact Nat.lt_succ_of_le (afterLine_length _)
  · cases h
    simp
  · split at h
    · cases h
      have := afterLine_length (‹Char› :: ‹List Char›)
      grind
    · cases h
  · cases h
    have := afterBlock_length ‹List Char›
    grind
  · cases h

/-- The inside of a quoted piece leaves no more than there was. -/
theorem afterQuoted_length (quote : Char) (text : List Char) :
    (afterQuoted quote text).length ≤ text.length := by
  fun_induction afterQuoted quote text <;> grind

/-- A quoted piece takes at least one character. -/
theorem afterQuote?_length {text rest : List Char} (h : afterQuote? text = some rest) :
    rest.length < text.length := by
  cases text with
  | nil => simp [afterQuote?] at h
  | cons c text =>
    simp only [afterQuote?] at h
    split at h
    · cases h
      exact Nat.lt_succ_of_le (afterQuoted_length _ _)
    · cases h

/-! ## Lexemes -/

/-- A piece of a statement. -/
inductive Lexeme where
  | comment
  | quoted
  | plain (c : Char)
deriving DecidableEq, Repr

/-- Cuts a text into pieces from the left. -/
def lexemes : List Char → List Lexeme
  | [] => []
  | c :: text =>
    match _comment : afterComment? (c :: text) with
    | some rest => .comment :: lexemes rest
    | none =>
      match _quote : afterQuote? (c :: text) with
      | some rest => .quoted :: lexemes rest
      | none => .plain c :: lexemes text
termination_by text => text.length
decreasing_by
  · exact afterComment?_length _comment
  · exact afterQuote?_length _quote
  · exact Nat.lt_succ_self _

/-- Whether a piece says nothing: a comment or a blank. -/
def Lexeme.isSilent : Lexeme → Bool
  | .comment => true
  | .quoted => false
  | .plain c => Text.isAsciiBlank c

/-- Whether something follows a semicolon.  `ended` tells whether one has been met. -/
def goesOn : (ended : Bool) → List Lexeme → Bool
  | _, [] => false
  | ended, lexeme :: others =>
    if ended && !lexeme.isSilent then true
    else goesOn (ended || lexeme == .plain ';') others

end SqlAccess.Sql
