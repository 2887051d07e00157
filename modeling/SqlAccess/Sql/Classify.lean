import SqlAccess.Error
import SqlAccess.Sql.Lexeme
import SqlAccess.Text.Abbreviated
import SqlAccess.Text.Blank

/-!
# What kind of statement a text is

The kind of a statement is told by its first word, `REPLACE` being an insert; blanks, comments and
opening parentheses in front of it do not count.  An insert is an upsert if it has the clause that
says what happens to duplicates.  A statement that begins with `WITH` is of the kind of the
statement behind its list of named queries, and a list that is not well formed leaves nothing to
tell a kind by.

What stands in front of the first word is looked at more coarsely than inside a statement: every
`--` begins a comment there, a comment opened by `/*` ends with the first `*/` even if the two share
their star, and blanks are those of the whole character set.
-/

namespace SqlAccess.Sql

/-! ## The first word -/

/-- What follows the keyword at the head of a text, if it stands there in any case and as a whole
word. -/
def afterKeyword? (keyword : List Char) (text : List Char) : Option (List Char) :=
  match Text.dropWord? keyword text with
  | none => none
  | some [] => some []
  | some (c :: rest) => if c.isAlphanum || c == '_' then none else some (c :: rest)

/-- Whether a text begins with a keyword. -/
def startsWithKeyword (keyword : String) (text : List Char) : Bool :=
  (afterKeyword? keyword.toList text).isSome

/-- What is left behind one comment or parenthesis in front of the first word, if there is one. -/
def afterLead? : List Char → Option (List Char)
  | '-' :: '-' :: text => some (afterLine text)
  | '#' :: text => some (afterLine text)
  | '/' :: '*' :: text => some (afterBlock ('*' :: text))
  | '(' :: text => some text
  | _ => none

/-- What stands in front of the first word takes at least one character. -/
theorem afterLead?_length {text rest : List Char} (h : afterLead? text = some rest) :
    rest.length < text.length := by
  unfold afterLead? at h
  split at h
  · cases h
    exact Nat.lt_succ_of_lt (Nat.lt_succ_of_le (afterLine_length _))
  · cases h
    exact Nat.lt_succ_of_le (afterLine_length _)
  · cases h
    exact Nat.lt_succ_of_le (afterBlock_length _)
  · cases h
    exact Nat.lt_succ_self _
  · cases h

/-- Blanks leave no more than there was. -/
theorem dropBlanks_length (text : List Char) : (Text.dropBlanks text).length ≤ text.length :=
  (List.dropWhile_sublist _).length_le

/-- The text from its first word on. -/
def fromFirstWord (text : List Char) : List Char :=
  let start := Text.dropBlanks text
  match _lead : afterLead? start with
  | some rest => fromFirstWord rest
  | none => start
termination_by text.length
decreasing_by
  exact Nat.lt_of_lt_of_le (afterLead?_length _lead) (dropBlanks_length text)

/-! ## Named queries -/

/-- The text behind ASCII blanks and comments. -/
def dropSilence : List Char → List Char
  | [] => []
  | c :: text =>
    match _comment : afterComment? (c :: text) with
    | some rest => dropSilence rest
    | none => if Text.isAsciiBlank c then dropSilence text else c :: text
termination_by text => text.length
decreasing_by
  · exact afterComment?_length _comment
  · exact Nat.lt_succ_self _

/-- What is left behind the parenthesis that closes the `depth`-th one open; parentheses in comments
and quoted pieces do not count. -/
def afterGroup (depth : Nat) : List Char → List Char
  | [] => []
  | c :: text =>
    match _comment : afterComment? (c :: text) with
    | some rest => afterGroup depth rest
    | none =>
      match _quote : afterQuote? (c :: text) with
      | some rest => afterGroup depth rest
      | none =>
        if c = '(' then afterGroup (depth + 1) text
        else if c = ')' then
          if depth ≤ 1 then text else afterGroup (depth - 1) text
        else afterGroup depth text
termination_by text => text.length
decreasing_by
  · exact afterComment?_length _comment
  · exact afterQuote?_length _quote
  all_goals exact Nat.lt_succ_self _

/-- A character of the name of a named query. -/
def isNameChar (c : Char) : Bool :=
  c.isAlphanum || c == '_' || c == '$' || 128 ≤ c.toNat

/-- What is left behind the name of a named query, if there is one. -/
def afterName? (text : List Char) : Option (List Char) :=
  match afterQuote? text with
  | some rest => some rest
  | none =>
    let rest := text.dropWhile isNameChar
    if rest.length = text.length then none else some rest

/-- What is left behind a parenthesised group and the silence after it, for a text that begins with
one. -/
def afterParens? : List Char → Option (List Char)
  | '(' :: text => some (dropSilence (afterGroup 1 text))
  | _ => none

/-- What is left behind one named query and the silence after it: a name, perhaps a list of columns,
the word `AS` and a body. -/
def afterNamedQuery? (text : List Char) : Option (List Char) := do
  let rest ← afterName? (dropSilence text)
  let rest := dropSilence rest
  let rest := (afterParens? rest).getD rest
  let rest ← afterKeyword? ['A', 'S'] rest
  afterParens? (dropSilence rest)

/-- The text behind a list of named queries.  Every query takes a character, so the length of the
text is `fuel` enough. -/
def afterNamedQueries? : (fuel : Nat) → List Char → Option (List Char)
  | 0, _ => none
  | fuel + 1, text =>
    match afterNamedQuery? text with
    | some (',' :: rest) => afterNamedQueries? fuel rest
    | some rest => some rest
    | none => none

/-- The statement behind the word `WITH`, empty if its named queries are not well formed. -/
def mainStatement (text : List Char) : List Char :=
  let start := dropSilence text
  let queries := (afterKeyword? "RECURSIVE".toList start).getD start
  match afterNamedQueries? (queries.length + 1) queries with
  | some rest => fromFirstWord rest
  | none => []

/-! ## Kinds -/

/-- Whether a text holds the clause that says what happens to duplicates, in any case and with any
blanks between its words. -/
def holdsDuplicateClause (text : List Char) : Bool :=
  Text.holdsMark "ON DUPLICATE KEY UPDATE".toList
    ((List.intercalate [' '] (Text.blankWords text)).map Char.toUpper)

/-- The kind of a statement that begins with its first word. -/
def kindOfStatement (text : List Char) : StatementKind :=
  if startsWithKeyword "SELECT" text then .select
  else if startsWithKeyword "INSERT" text || startsWithKeyword "REPLACE" text then
    if holdsDuplicateClause text then .upsert else .insert
  else if startsWithKeyword "UPDATE" text then .update
  else if startsWithKeyword "DELETE" text then .delete
  else .other

/-- The text by whose first word the kind of a statement is told. -/
def decidingStatement (text : List Char) : List Char :=
  let start := fromFirstWord text
  match afterKeyword? "WITH".toList start with
  | some rest => mainStatement rest
  | none => start

/-- The kind of a statement. -/
def classify (sql : String) : StatementKind :=
  kindOfStatement (decidingStatement sql.toList)

end SqlAccess.Sql

namespace SqlAccess

/-- Whether a statement of this kind may stand where one of the kind `expected` is wanted.  Every
statement may stand where kinds do not matter, and an upsert is an insert too. -/
def StatementKind.isAcceptedAs (kind expected : StatementKind) : Bool :=
  match expected with
  | .other => true
  | .insert => kind == .insert || kind == .upsert
  | expected => kind == expected

namespace Sql

/-- How many bytes of a refused statement are quoted. -/
def quotedStatementLimit : Nat := 200

/-- The failure that a statement is not of the kind `expected`. -/
def kindError (expected : StatementKind) (sql : String) : Error :=
  .statementKind expected
    (String.ofList (Text.abbreviated quotedStatementLimit (Text.trimList sql.toList)))

/-- Refuses a statement that is not of the kind `expected`. -/
def validate (sql : String) (expected : StatementKind) : Except Error Unit :=
  if (classify sql).isAcceptedAs expected then .ok () else .error (kindError expected sql)

end Sql

end SqlAccess
