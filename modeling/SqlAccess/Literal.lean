import SqlAccess.Ident
import SqlAccess.Value

/-!
# Values as SQL text

Every value that goes into a statement is written as a literal.  Text stands in single quotes with a
backslash before every character that could end the literal or change its meaning, so that the
literal ends exactly where it should whatever text it holds.

Four words are understood as SQL rather than as text where a filter compares with them: the current
time in its two spellings, and the two null checks.  They are recognised in any case but only as
they are, without blanks around them.
-/

namespace SqlAccess

/-! ## Text and bytes -/

/-- One character inside single quotes. -/
def literalChar (c : Char) : List Char :=
  if c = '\x00' then ['\\', '0']
  else if c = '\x08' then ['\\', 'b']
  else if c = '\t' then ['\\', 't']
  else if c = '\n' then ['\\', 'n']
  else if c = '\r' then ['\\', 'r']
  else if c = '\x1a' then ['\\', 'Z']
  else if c = '"' then ['\\', '"']
  else if c = '\'' then ['\\', '\'']
  else if c = '\\' then ['\\', '\\']
  else [c]

/-- Text in single quotes. -/
def textLiteral (text : List Char) : List Char :=
  '\'' :: text.flatMap literalChar ++ ['\'']

/-- Bytes as hexadecimal digits. -/
def bytesLiteral (bytes : List UInt8) : List Char :=
  'X' :: '\'' :: bytes.flatMap Text.hexByte ++ ['\'']

/-- Several texts with a separator between them. -/
def joined (separator : List Char) (texts : List (List Char)) : List Char :=
  List.intercalate separator texts

/-! ## Values -/

namespace Value

mutual

/-- The value as SQL. -/
def literal : Value → List Char
  | .null => ['N', 'U', 'L', 'L']
  | .bool true => ['t', 'r', 'u', 'e']
  | .bool false => ['f', 'a', 'l', 's', 'e']
  | .int n => Text.intText n.toInt
  | .uint n => Text.intText n.toNat
  | .float x => if x.isFinite then (floatText x).toList else ['N', 'U', 'L', 'L']
  | .text s => textLiteral s.toList
  | .bytes b => bytesLiteral b
  | .date d => '\'' :: d.text ++ ['\'']
  | .dateTime dt => '\'' :: dt.text ' ' milliFraction ++ ['\'']
  | .list items => joined [',', ' '] (scalarLiterals items)
  | .raw sql => sql.toList

/-- The scalars of a list as SQL; lists and raw values inside a list are left out. -/
def scalarLiterals : List Value → List (List Char)
  | [] => []
  | item :: items =>
    if item.isScalar then literal item :: scalarLiterals items else scalarLiterals items

end

/-- The value as SQL text. -/
def sql (v : Value) : String :=
  String.ofList v.literal

end Value

/-! ## Words that are SQL -/

/-- The words that are SQL rather than text, in lower case. -/
def sqlWords : List String :=
  ["current_timestamp", "now()", "is null", "is not null"]

/-- Whether a text is one of the words that are SQL, in any case. -/
def isSqlWord (s : String) : Bool :=
  sqlWords.contains (Text.asciiLower s)

/-- Whether a text is one of the two null checks. -/
def isNullCheck (s : String) : Bool :=
  isSqlWord s && (Text.dropLead? ['i', 's', ' '] (Text.asciiLower s).toList).isSome

namespace Value

/-- The value as SQL where a word that is SQL stands for itself. -/
def literalOrWord : Value → List Char
  | .text s => if isSqlWord s then s.toList else textLiteral s.toList
  | other => other.literal

/-- The value as SQL text where a word that is SQL stands for itself. -/
def sqlOrWord (v : Value) : String :=
  String.ofList v.literalOrWord

/-- What stands between the parentheses of a membership test: the scalars of a list, or a scalar by
itself. -/
def memberLiterals : Value → List Char
  | .list items => (Value.list items).literal
  | scalar => scalar.literalOrWord

/-- The value as a list in parentheses, unless nothing would stand between them. -/
def membersSql? (v : Value) : Option String :=
  let body := v.memberLiterals
  if body.isEmpty then none else some (String.ofList ('(' :: body ++ [')']))

end Value

/-! ## Dotted names -/

/-- The pieces of a text between its dots. -/
def splitDots : List Char → List (List Char)
  | [] => [[]]
  | c :: text => if c = '.' then [] :: splitDots text else consFirst c (splitDots text)

/-- A name with every piece between its dots inside backticks. -/
def quotedDottedName (s : String) : String :=
  String.ofList (joined ['.'] ((splitDots s.toList).map backticked))

end SqlAccess
