import SqlAccess.Ident
import SqlAccess.Text.Blank
import SqlAccess.Text.SnakeCase

/-!
# Columns under the names that programs use

Programs name a column as their own language does (`lastName`); the database stores it in snake case
(`last_name`).  `Column.normalize` goes from the first to the second:

* the bare parts of an identifier are put in snake case and the backticked ones are kept;
* a text that is no identifier is put in snake case as a whole and read again, which turns anything
  that is no letter or number into a separator of words;
* a text that holds `->` reaches into a JSON document.  What stands before the first arrow is the
  column, kept as it is and always written inside backticks; the arrow and everything after it is
  written as it is.
-/

namespace SqlAccess

/-- A column of a table. -/
inductive Column where
  | plain (ident : Ident)
  /-- A place inside the JSON document that the column `head` holds. -/
  | path (head accessor : String)
deriving DecidableEq, Repr

/-- Why a text names no column. -/
inductive ColumnError where
  | noLeadingColumn (name : String)
  | ident (cause : IdentError)
  | noWords (name : String)
deriving DecidableEq, Repr

/-- The fault, in words. -/
def ColumnError.message : ColumnError → String
  | .noLeadingColumn name => s!"Path accessor '{name}' has no leading column"
  | .ident cause => cause.message
  | .noWords name => s!"Invalid column name '{name}'"

/-- The mark of a place inside a JSON document. -/
def arrow : List Char := ['-', '>']

/-- A text without the pair of backticks around it, if it has both. -/
def withoutBackticks (text : List Char) : List Char :=
  match text with
  | c :: rest =>
    if c = backtick ∧ rest.getLast? = some backtick then rest.dropLast else text
  | [] => []

namespace Column

/-- Puts a part of an identifier in snake case, unless it is backticked. -/
def normalizePart (name : String) : IdentPart → Except ColumnError IdentPart
  | .bare word =>
    let snake := Text.snakeCase word
    if snake.isEmpty then .error (.noWords name) else .ok (.bare snake)
  | .backticked word => .ok (.backticked word)

/-- Puts the parts of an identifier in snake case, in order. -/
def normalizeParts (name : String) : List IdentPart → Except ColumnError (List IdentPart)
  | [] => .ok []
  | part :: parts => do
    let part ← normalizePart name part
    let parts ← normalizeParts name parts
    .ok (part :: parts)

/-- Reads an identifier, from the text itself or else from its snake case. -/
def readIdent (name : String) : Except ColumnError Ident :=
  match Ident.read name with
  | .ok ident => .ok ident
  | .error _ => (Ident.read (Text.snakeCase name)).mapError .ident

/-- The column that a text names. -/
def normalize (s : String) : Except ColumnError Column :=
  let name := Text.trimList s.toList
  match Text.splitAtMark? arrow name with
  | some (before, after) =>
    let head := withoutBackticks (Text.trimList before)
    if head.isEmpty then .error (.noLeadingColumn (String.ofList name))
    else .ok (.path (String.ofList head) (String.ofList (arrow ++ after)))
  | none => do
    let ident ← readIdent (String.ofList name)
    let parts ← normalizeParts (String.ofList name) ident.parts
    .ok (.plain ⟨parts⟩)

/-- The column with its name inside backticks. -/
def quotedSql : Column → String
  | .plain ident => ident.quotedSql
  | .path head accessor => backtickedText head ++ accessor

/-- The column with its name bare where that is possible. -/
def sql : Column → String
  | .plain ident => ident.sql
  | .path head accessor => quotedSql (.path head accessor)

/-- The name under which the column is stored. -/
def name : Column → String
  | .plain ident => ident.lastName
  | .path head _ => head

end Column

end SqlAccess
