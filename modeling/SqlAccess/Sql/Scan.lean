import SqlAccess.Sql.Lexeme

/-!
# Statements, byte by byte

Every statement is scanned before it is sent, for a second statement behind a semicolon.  The scan
is one walk over the bytes of the statement, which answers as soon as it knows.  It looks at bytes
and not at characters, because all that it looks for is ASCII, and no byte of any other character is
an ASCII byte.  A jump over the byte behind a backslash may land inside of a character; the walk
then goes on byte by byte and is at the next character soon.

Places are numbers of bytes from the start.  The pieces that are skipped are those of `Lexeme`.
-/

namespace SqlAccess.Sql

/-- The bytes of a text. -/
def bytesOf (s : String) : Array UInt8 :=
  s.toUTF8.data

/-- Whether a byte is one of the five ASCII blanks. -/
def isBlankByte (b : UInt8) : Bool :=
  Text.isAsciiBlank (Char.ofUInt8 b)

/-- Whether a byte opens a quoted piece. -/
def isQuoteByte (b : UInt8) : Bool :=
  isQuote (Char.ofUInt8 b)

/-! ## Comments -/

/-- The place behind the end of the line at `i`. -/
def lineEnd (bytes : Array UInt8) (i : Nat) : Nat :=
  if _inside : i < bytes.size then
    if bytes[i] = '\n'.toUInt8 then i + 1 else lineEnd bytes (i + 1)
  else bytes.size
termination_by bytes.size - i

/-- The place behind the first `*/` from `i` on. -/
def blockEnd (bytes : Array UInt8) (i : Nat) : Nat :=
  if _inside : i + 1 < bytes.size then
    if bytes[i] = '*'.toUInt8 ∧ bytes[i + 1] = '/'.toUInt8 then i + 2 else blockEnd bytes (i + 1)
  else bytes.size
termination_by bytes.size - i

/-- Whether a comment that takes the rest of its line begins at `i`. -/
def opensLine (bytes : Array UInt8) (i : Nat) : Bool :=
  bytes[i]? == some '#'.toUInt8 ||
    bytes[i]? == some '-'.toUInt8 && bytes[i + 1]? == some '-'.toUInt8 &&
      bytes[i + 2]?.all isBlankByte

/-- Whether a comment that takes all up to the next `*/` begins at `i`. -/
def opensBlock (bytes : Array UInt8) (i : Nat) : Bool :=
  bytes[i]? == some '/'.toUInt8 && bytes[i + 1]? == some '*'.toUInt8

/-- The place behind the comment at `i`, if there is one. -/
def commentEnd? (bytes : Array UInt8) (i : Nat) : Option Nat :=
  if opensLine bytes i then some (lineEnd bytes i)
  else if opensBlock bytes i then some (blockEnd bytes (i + 2))
  else none

/-! ## Quoted pieces -/

/-- The place behind the quoted piece whose inside goes on at `i`. -/
def insideEnd (quote : UInt8) (bytes : Array UInt8) (i : Nat) : Nat :=
  if _inside : i < bytes.size then
    if bytes[i] = '\\'.toUInt8 ∧ quote ≠ backtick.toUInt8 then insideEnd quote bytes (i + 2)
    else if bytes[i] = quote then
      if bytes[i + 1]? = some quote then insideEnd quote bytes (i + 2) else i + 1
    else insideEnd quote bytes (i + 1)
  else bytes.size
termination_by bytes.size - i

/-- The place behind the quoted piece at `i`, if there is one. -/
def quotedEnd? (bytes : Array UInt8) (i : Nat) : Option Nat :=
  match bytes[i]? with
  | none => none
  | some quote => if isQuoteByte quote then some (insideEnd quote bytes (i + 1)) else none

/-! ## The walk goes on -/

section Progress

variable {bytes : Array UInt8} {start i : Nat}

/-- A line ends behind every place in it. -/
theorem lt_lineEnd (hstart : start < bytes.size) (h : start ≤ i) : start < lineEnd bytes i := by
  fun_induction lineEnd bytes i <;> grind

/-- A comment ends behind every place in it. -/
theorem lt_blockEnd (hstart : start < bytes.size) (h : start ≤ i) : start < blockEnd bytes i := by
  fun_induction blockEnd bytes i <;> grind

/-- A quoted piece ends behind every place in it. -/
theorem lt_insideEnd {quote : UInt8} (hstart : start < bytes.size) (h : start ≤ i) :
    start < insideEnd quote bytes i := by
  fun_induction insideEnd quote bytes i <;> grind

/-- A comment takes at least one byte. -/
theorem lt_of_commentEnd? {next : Nat} (hi : i < bytes.size)
    (h : commentEnd? bytes i = some next) : i < next := by
  unfold commentEnd? at h
  split at h
  · cases h
    exact lt_lineEnd hi (Nat.le_refl i)
  · split at h
    · cases h
      exact lt_blockEnd hi (Nat.le_add_right i 2)
    · cases h

/-- A quoted piece takes at least one byte. -/
theorem lt_of_quotedEnd? {next : Nat} (hi : i < bytes.size)
    (h : quotedEnd? bytes i = some next) : i < next := by
  unfold quotedEnd? at h
  split at h
  · cases h
  · split at h
    · cases h
      exact lt_insideEnd hi (Nat.le_succ i)
    · cases h

end Progress

/-! ## Several statements -/

/-- Whether something follows a semicolon from `i` on.  `ended` tells whether one has been met. -/
def severalFrom (bytes : Array UInt8) (ended : Bool) (i : Nat) : Bool :=
  if _inside : i < bytes.size then
    match _comment : commentEnd? bytes i with
    | some next => severalFrom bytes ended next
    | none =>
      if ended && !isBlankByte bytes[i] then true
      else
        match _quote : quotedEnd? bytes i with
        | some next => severalFrom bytes ended next
        | none => severalFrom bytes (ended || bytes[i] == ';'.toUInt8) (i + 1)
  else false
termination_by bytes.size - i
decreasing_by
  · have := lt_of_commentEnd? _inside _comment
    omega
  · have := lt_of_quotedEnd? _inside _quote
    omega
  · omega

/-- Whether a text holds more than one statement: a semicolon with more than blanks and comments
behind it. -/
def holdsSeveral (sql : String) : Bool :=
  severalFrom (bytesOf sql) false 0

end SqlAccess.Sql
