import SqlAccess.Text.Ascii

/-!
# Text in settings documents

Text stands between quotes.  Between single quotes every character stands for itself; between double
quotes a backslash starts an escape.  Three quotes open text of several lines, which starts behind
an immediate line break; there a backslash at the end of a line hides the blanks up to the next
text.

Control characters other than the tab must be escaped.
-/

namespace SqlAccess.Toml

/-- A blank that does not end a line. -/
def isLineBlank (c : Char) : Bool := c == ' ' || c == '\t'

/-- What follows a line break. -/
def afterLineBreak? : List Char → Option (List Char)
  | '\n' :: text => some text
  | '\r' :: '\n' :: text => some text
  | _ => none

/-- A character that may stand for itself. -/
def isVisible (c : Char) : Bool :=
  c == '\t' || (32 ≤ c.toNat && c.toNat ≠ 127)

/-! ## Escapes -/

/-- The number that exactly `count` hexadecimal digits spell. -/
def readHex (count : Nat) (text : List Char) : Option (Nat × List Char) :=
  let digits := (text.take count).filterMap Text.hexValue?
  if digits.length = count then
    some (digits.foldl (fun n d => n * 16 + d) 0, text.drop count)
  else none

/-- The character with a number. -/
def charOf? (n : Nat) : Option Char :=
  if n.isValidChar then some (Char.ofNat n) else none

/-- Reads an escape behind its backslash. -/
def readEscape : List Char → Option (Char × List Char)
  | [] => none
  | c :: text =>
    let numbered (count : Nat) : Option (Char × List Char) := do
      let (n, rest) ← readHex count text
      let d ← charOf? n
      some (d, rest)
    if c = 'b' then some ('\x08', text)
    else if c = 't' then some ('\t', text)
    else if c = 'n' then some ('\n', text)
    else if c = 'f' then some ('\x0c', text)
    else if c = 'r' then some ('\r', text)
    else if c = 'e' then some ('\x1b', text)
    else if c = '"' then some ('"', text)
    else if c = '\\' then some ('\\', text)
    else if c = 'x' then numbered 2
    else if c = 'u' then numbered 4
    else if c = 'U' then numbered 8
    else none

/-! ## Text of one line -/

/-- Reads text up to its closing quote, `read` being the characters so far in reverse. Every step
takes a character, so the length of the text is `fuel` enough. -/
def readLineFrom (quote : Char) : (fuel : Nat) → (read : List Char) → List Char →
    Option (String × List Char)
  | 0, _, _ => none
  | _ + 1, _, [] => none
  | fuel + 1, read, c :: text =>
    if c = quote then some (String.ofList read.reverse, text)
    else if c = '\\' ∧ quote = '"' then do
      let (d, rest) ← readEscape text
      readLineFrom quote fuel (d :: read) rest
    else if isVisible c then readLineFrom quote fuel (c :: read) text
    else none

/-! ## Text of several lines -/

/-- The text without blanks and line breaks in front. -/
def dropHidden : List Char → List Char
  | ' ' :: text => dropHidden text
  | '\t' :: text => dropHidden text
  | '\n' :: text => dropHidden text
  | '\r' :: '\n' :: text => dropHidden text
  | text => text

/-- What follows a backslash at the end of a line, from the next text on. -/
def afterHiddenBreak? (text : List Char) : Option (List Char) :=
  (afterLineBreak? (text.dropWhile isLineBlank)).map dropHidden

/-- Reads text of several lines up to its closing quotes; up to two quotes may stand right before
them. -/
def readLinesFrom (quote : Char) : (fuel : Nat) → (read : List Char) → List Char →
    Option (String × List Char)
  | 0, _, _ => none
  | _ + 1, _, [] => none
  | fuel + 1, read, c :: text =>
    if c = quote then
      let run := ((c :: text).takeWhile (· = quote)).length
      if run < 3 then readLinesFrom quote fuel (c :: read) text
      else if run ≤ 5 then
        some (String.ofList (List.replicate (run - 3) quote ++ read).reverse, (c :: text).drop run)
      else none
    else if c = '\\' ∧ quote = '"' then
      match afterHiddenBreak? text with
      | some rest => readLinesFrom quote fuel read rest
      | none => do
        let (d, rest) ← readEscape text
        readLinesFrom quote fuel (d :: read) rest
    else if c = '\n' then readLinesFrom quote fuel (c :: read) text
    else if c = '\r' then
      match text with
      | '\n' :: rest => readLinesFrom quote fuel ('\n' :: c :: read) rest
      | _ => none
    else if isVisible c then readLinesFrom quote fuel (c :: read) text
    else none

/-- The text without a line break right in front. -/
def dropLineBreak (text : List Char) : List Char :=
  (afterLineBreak? text).getD text

/-- Reads text from its opening quotes on; `many` allows several lines. -/
def readText (many : Bool) : List Char → Option (String × List Char)
  | '"' :: '"' :: '"' :: text =>
    if many then
      readLinesFrom '"' (text.length + 1) [] (dropLineBreak text)
    else none
  | '\'' :: '\'' :: '\'' :: text =>
    if many then
      readLinesFrom '\'' (text.length + 1) [] (dropLineBreak text)
    else none
  | '"' :: text => readLineFrom '"' (text.length + 1) [] text
  | '\'' :: text => readLineFrom '\'' (text.length + 1) [] text
  | _ => none

end SqlAccess.Toml
