import SqlAccess.Text.Ascii

/-!
# Names of tables and columns

An identifier is one or more parts with dots between them (`schema.table`).  A part is written bare
if it is a plain word — a letter or underscore, then letters, digits, underscores and dollar signs,
all ASCII — and may always be written inside backticks, where everything but NUL is allowed and a
backtick is written twice.

`Ident.read` and `Ident.sql` are the reader and the printer of this form.  A dot separates parts
only outside backticks, and whether a place is inside or outside depends on nothing but the number
of backticks before it, because a doubled backtick leaves and enters again.
-/

namespace SqlAccess

/-- The quotation mark of names. -/
def backtick : Char := '\x60'

/-! ## Parts -/

/-- A part of an identifier. -/
inductive IdentPart where
  /-- Written as a plain word. -/
  | bare (name : String)
  /-- Written inside backticks; the name is what they stand for. -/
  | backticked (name : String)
deriving DecidableEq, Repr

/-- The name that a part stands for. -/
def IdentPart.name : IdentPart → String
  | .bare name => name
  | .backticked name => name

/-- Whether a part is written inside backticks. -/
def IdentPart.isBackticked : IdentPart → Bool
  | .bare _ => false
  | .backticked _ => true

/-- The characters of a name with every backtick doubled. -/
def doubleBackticks : List Char → List Char
  | [] => []
  | c :: name => if c = backtick then c :: c :: doubleBackticks name else c :: doubleBackticks name

/-- The characters of a name inside backticks. -/
def backticked (name : List Char) : List Char :=
  backtick :: doubleBackticks name ++ [backtick]

/-- A name inside backticks. -/
def backtickedText (name : String) : String :=
  String.ofList (backticked name.toList)

/-- A part as it is written, or, if `always`, inside backticks whatever it is. -/
def IdentPart.sql (always : Bool) (part : IdentPart) : String :=
  if always || part.isBackticked then backtickedText part.name else part.name

/-! ## Identifiers -/

/-- A name of one or more parts. -/
structure Ident where
  parts : List IdentPart
deriving DecidableEq, Repr

/-- The identifier as it is written, with backticks only where they are part of it. -/
def Ident.sql (ident : Ident) : String :=
  ".".intercalate (ident.parts.map (IdentPart.sql false))

/-- The identifier with every part inside backticks. -/
def Ident.quotedSql (ident : Ident) : String :=
  ".".intercalate (ident.parts.map (IdentPart.sql true))

/-- The name of the last part. -/
def Ident.lastName (ident : Ident) : String :=
  (ident.parts.getLast?.map IdentPart.name).getD ""

/-! ## Reading -/

/-- Why a text is no identifier. -/
inductive IdentError where
  | empty
  | holdsNul
  | unterminatedBacktick (text : String)
  | emptySegment
  | textAfterBackticks (segment : String)
  | emptyBackticks
  | loneBacktick (segment : String)
  | notPlainWord (segment : String)
deriving DecidableEq, Repr

/-- The fault, in words. -/
def IdentError.message : IdentError → String
  | .empty => "identifier is empty"
  | .holdsNul => "identifier contains a NUL byte"
  | .unterminatedBacktick text => s!"identifier '{text}' has an unterminated backtick"
  | .emptySegment => "identifier has an empty segment"
  | .textAfterBackticks segment => s!"unexpected text after backticked segment '{segment}'"
  | .emptyBackticks => "identifier has an empty backticked segment"
  | .loneBacktick segment => s!"backtick inside '{segment}' must be doubled"
  | .notPlainWord segment => s!"'{segment}' is not a valid unquoted identifier"

/-- A character that may begin a plain word. -/
def startsWord (c : Char) : Bool :=
  c == '_' || c.isAlpha

/-- A character that may stand inside a plain word. -/
def continuesWord (c : Char) : Bool :=
  c == '_' || c == '$' || c.isAlphanum

/-- Whether the characters are a plain word. -/
def isPlainWord : List Char → Bool
  | [] => false
  | c :: word => startsWord c && word.all continuesWord

/-- Puts a character in front of the first of several segments. -/
def consFirst (c : Char) : List (List Char) → List (List Char)
  | [] => [[c]]
  | segment :: segments => (c :: segment) :: segments

/-- The segments between the dots outside backticks, with their backticks; nothing if the text ends
inside backticks. -/
def splitSegments : (inside : Bool) → List Char → Option (List (List Char))
  | true, [] => none
  | false, [] => some [[]]
  | inside, c :: text =>
    if c = '.' ∧ inside = false then (splitSegments false text).map ([] :: ·)
    else (splitSegments (if c = backtick then !inside else inside) text).map (consFirst c)

/-- The name that doubled backticks stand for; nothing if a backtick stands alone. -/
def undoubleBackticks : List Char → Option (List Char)
  | [] => some []
  | [c] => if c = backtick then none else some [c]
  | c :: d :: name =>
    if c = backtick then
      if d = backtick then (undoubleBackticks name).map (backtick :: ·) else none
    else (undoubleBackticks (d :: name)).map (c :: ·)

/-- Reads a segment. -/
def readSegment (segment : List Char) : Except IdentError IdentPart :=
  match segment with
  | [] => .error .emptySegment
  | c :: rest =>
    if c = backtick then
      if rest.getLast? ≠ some backtick then
        .error (.textAfterBackticks (String.ofList segment))
      else if rest.dropLast.isEmpty then .error .emptyBackticks
      else
        match undoubleBackticks rest.dropLast with
        | none => .error (.loneBacktick (String.ofList segment))
        | some name => .ok (.backticked (String.ofList name))
    else if isPlainWord segment then .ok (.bare (String.ofList segment))
    else .error (.notPlainWord (String.ofList segment))

/-- Whether a text may be a name at all: it is not empty and holds no NUL. -/
def checkName (s : String) : Except IdentError Unit :=
  if s.isEmpty then .error .empty
  else if s.toList.contains '\x00' then .error .holdsNul
  else .ok ()

/-- Reads the parts of an identifier from their segments, in order. -/
def readSegments : List (List Char) → Except IdentError (List IdentPart)
  | [] => .ok []
  | segment :: segments => do
    let part ← readSegment segment
    let parts ← readSegments segments
    .ok (part :: parts)

/-- Reads an identifier. -/
def Ident.read (s : String) : Except IdentError Ident := do
  checkName s
  match splitSegments false s.toList with
  | none => .error (.unterminatedBacktick s)
  | some segments => do
    let parts ← readSegments segments
    .ok ⟨parts⟩

/-- The identifier of one part that stands for a name as it is. -/
def Ident.ofName (name : String) : Except IdentError Ident := do
  checkName name
  .ok ⟨[.backticked name]⟩

end SqlAccess
