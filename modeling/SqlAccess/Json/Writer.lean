import SqlAccess.Json.Basic
import SqlAccess.Number.FloatText

/-!
# JSON documents, written without spaces

The compact written form: no blanks, members in order, strings with the short escapes where JSON has
them and four hexadecimal digits for the other control characters.  Characters beyond ASCII stand
for themselves.
-/

namespace SqlAccess.Json

/-- One character inside a string. -/
def stringChar (c : Char) : List Char :=
  if c = '"' then ['\\', '"']
  else if c = '\\' then ['\\', '\\']
  else if c = '\x08' then ['\\', 'b']
  else if c = '\x0c' then ['\\', 'f']
  else if c = '\n' then ['\\', 'n']
  else if c = '\r' then ['\\', 'r']
  else if c = '\t' then ['\\', 't']
  else if c.toNat < 32 then
    ['\\', 'u', '0', '0', Text.hexDigit (c.toNat / 16), Text.hexDigit c.toNat]
  else [c]

/-- A string with its quotes. -/
def stringText (s : String) : List Char :=
  '"' :: s.toList.flatMap stringChar ++ ['"']

mutual

/-- The document of a value. -/
def document : Json → List Char
  | .null => ['n', 'u', 'l', 'l']
  | .bool true => ['t', 'r', 'u', 'e']
  | .bool false => ['f', 'a', 'l', 's', 'e']
  | .integer n => Text.intText n.val
  | .float x => (jsonFloatText x).toList
  | .string s => stringText s
  | .array items => '[' :: itemsText true items ++ [']']
  | .object members => '\x7b' :: membersText true members ++ ['\x7d']

/-- The items of an array, with a comma in front of every item but the first. -/
def itemsText (first : Bool) : List Json → List Char
  | [] => []
  | item :: items =>
    (if first then [] else [',']) ++ document item ++ itemsText false items

/-- The members of an object, with a comma in front of every member but the first. -/
def membersText (first : Bool) : List (String × Json) → List Char
  | [] => []
  | (key, value) :: members =>
    (if first then [] else [',']) ++ stringText key ++ ':' :: document value ++
      membersText false members

end

/-- The document of a value, as text. -/
def text (j : Json) : String :=
  String.ofList j.document

end SqlAccess.Json
