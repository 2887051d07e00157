import SqlAccess.Text.Ascii
import SqlAccess.Text.LetterCase
import SqlAccess.Text.UnprintableRanges

/-!
# Text in double quotes, for messages

A message that shows a value the program could not use writes text in double quotes, so that its
ends, its blanks and its invisible characters can be seen.  Tab, line feed, carriage return, NUL,
the backslash and the double quote are written with a backslash; a character without a printed form
of its own, or one that would be drawn onto the character before it, is written by its code point in
braces.  All else, the single quote included, stands for itself.
-/

namespace SqlAccess.Text

/-- A character with a printed form of its own. -/
def isPrintable (c : Char) : Bool :=
  if c.toNat < 128 then 32 ≤ c.toNat && c.toNat < 127
  else !(inRanges unprintableRanges c.toNat)

/-- A character that extends the one before it. -/
def isGraphemeExtend (c : Char) : Bool :=
  if c.toNat < 128 then false else inRanges graphemeExtendRanges c.toNat

/-- A character by its code point. -/
def escapedByNumber (c : Char) : List Char :=
  ['\\', 'u', '\x7b'] ++ hexNat c.toNat ++ ['\x7d']

/-- One character inside double quotes. -/
def quotedChar (c : Char) : List Char :=
  if c = '\x00' then ['\\', '0']
  else if c = '\t' then ['\\', 't']
  else if c = '\n' then ['\\', 'n']
  else if c = '\r' then ['\\', 'r']
  else if c = '\\' then ['\\', '\\']
  else if c = '"' then ['\\', '"']
  else if isGraphemeExtend c || !isPrintable c then escapedByNumber c
  else [c]

/-- The text in double quotes. -/
def quoted (s : String) : String :=
  String.ofList ('"' :: s.toList.flatMap quotedChar ++ ['"'])

end SqlAccess.Text
