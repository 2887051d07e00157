import SqlAccess.Toml.Text
import SqlAccess.Toml.Word

/-!
# Settings documents, read

A document is read line by line: a line holds a header, a key with its value, or nothing, and ends
with an optional comment.  Values are text, words, lists and tables.  Inside lists and tables,
blanks, line breaks and comments may stand between any two parts, and the last part may be followed
by a comma; lists and tables may stand in each other to a depth of `deepest`.
-/

namespace SqlAccess.Toml

/-! ## Blanks and comments -/

/-- The text without the blanks in front that end no line. -/
def dropBlanks (text : List Char) : List Char :=
  text.dropWhile isLineBlank

/-- What follows a comment, at the end of its line. -/
def afterComment? (text : List Char) : Option (List Char) :=
  let rest := text.dropWhile isVisible
  match rest with
  | [] => some rest
  | _ => if (afterLineBreak? rest).isSome then some rest else none

/-- What follows the end of a line, blanks and a comment in front of it included. -/
def afterLine? (text : List Char) : Option (List Char) := do
  let rest ← match dropBlanks text with
    | '#' :: comment => afterComment? comment
    | rest => some rest
  match rest with
  | [] => some []
  | rest => afterLineBreak? rest

/-- Drops blanks, line breaks and comments.  Every step takes a character, so the length of the text
is `fuel` enough. -/
def dropLines? : (fuel : Nat) → List Char → Option (List Char)
  | 0, _ => none
  | fuel + 1, text =>
    match dropBlanks text with
    | '#' :: comment => do
      let rest ← afterComment? comment
      dropLines? fuel rest
    | rest =>
      match afterLineBreak? rest with
      | some rest => dropLines? fuel rest
      | none => some rest

/-- The text without blanks, line breaks and comments in front. -/
def dropSilence? (text : List Char) : Option (List Char) :=
  dropLines? (text.length + 1) text

/-! ## Keys -/

/-- A character of a name that needs no quotes. -/
def isNameChar (c : Char) : Bool :=
  c.isAlphanum || c == '_' || c == '-'

/-- Reads one name. -/
def readName (text : List Char) : Option (String × List Char) :=
  match text with
  | [] => none
  | c :: _ =>
    if c = '"' ∨ c = '\'' then readText false text
    else
      let name := text.takeWhile isNameChar
      if name.isEmpty then none else some (String.ofList name, text.dropWhile isNameChar)

/-- Reads names with points between them.  Every name takes a character, so the length of the text
is `fuel` enough. -/
def readNames : (fuel : Nat) → List Char → Option (List String × List Char)
  | 0, _ => none
  | fuel + 1, text => do
    let (name, rest) ← readName (dropBlanks text)
    match dropBlanks rest with
    | '.' :: rest => do
      let (names, rest) ← readNames fuel rest
      some (name :: names, rest)
    | rest => some ([name], rest)

/-- Reads a dotted key with the blanks around it. -/
def readKey (text : List Char) : Option (List String × List Char) :=
  readNames (text.length + 1) text

/-! ## Values -/

/-- How many lists and tables may stand in each other. -/
def deepest : Nat := 80

mutual

/-- Reads a value, in which `room` lists and tables may stand in each other.  Every step takes a
character, so `fuel` bounds the steps. -/
def readValue : (fuel room : Nat) → List Char → Option (Toml × List Char)
  | 0, _, _ => none
  | fuel + 1, room, text =>
    match text with
    | [] => none
    | '[' :: rest => if room = 0 then none else readItems fuel (room - 1) [] rest
    | '\x7b' :: rest => if room = 0 then none else readMembers fuel (room - 1) [] rest
    | c :: _ =>
      if c = '"' ∨ c = '\'' then (readText true text).map fun (s, rest) => (.string s, rest)
      else
        let (word, rest) := readWord text
        (word? word).map (·, rest)

/-- Reads the items of a list up to its closing bracket. -/
def readItems : (fuel room : Nat) → List Toml → List Char → Option (Toml × List Char)
  | 0, _, _, _ => none
  | fuel + 1, room, items, text => do
    let text ← dropSilence? text
    match text with
    | ']' :: rest => some (.array items, rest)
    | text => do
      let (item, rest) ← readValue fuel room text
      let rest ← dropSilence? rest
      match rest with
      | ',' :: rest => readItems fuel room (items ++ [item]) rest
      | ']' :: rest => some (.array (items ++ [item]), rest)
      | _ => none

/-- Reads the members of a table up to its closing brace. -/
def readMembers : (fuel room : Nat) → Entries Toml → List Char → Option (Toml × List Char)
  | 0, _, _, _ => none
  | fuel + 1, room, members, text => do
    let text ← dropSilence? text
    match text with
    | '\x7d' :: rest => some (.inline members, rest)
    | text => do
      let (key, rest) ← readKey text
      let rest ← dropSilence? rest
      match rest with
      | '=' :: rest => do
        let rest ← dropSilence? rest
        let (value, rest) ← readValue fuel room rest
        let members ← assign value true key members
        let rest ← dropSilence? rest
        match rest with
        | ',' :: rest => readMembers fuel room members rest
        | '\x7d' :: rest => some (.inline members, rest)
        | _ => none
      | _ => none

end

/-! ## Lines -/

/-- A document so far: its root, and the header of the table that keys belong to. -/
structure Draft where
  root : Entries Toml
  header : List String

/-- Reads a header of a table that grows, behind its first two brackets. -/
def readGrowingHeader (d : Draft) (text : List Char) : Option (Draft × List Char) := do
  let (header, rest) ← readKey text
  match rest with
  | ']' :: ']' :: rest => do
    let root ← appendTable header d.root
    some (⟨root, header⟩, rest)
  | _ => none

/-- Reads a header behind its first bracket. -/
def readHeader (d : Draft) (text : List Char) : Option (Draft × List Char) := do
  let (header, rest) ← readKey text
  match rest with
  | ']' :: rest => do
    let root ← defineTable header d.root
    some (⟨root, header⟩, rest)
  | _ => none

/-- Reads a key and its value. -/
def readAssignment (d : Draft) (text : List Char) : Option (Draft × List Char) := do
  let (key, rest) ← readKey text
  match rest with
  | '=' :: rest => do
    let rest := dropBlanks rest
    let (value, rest) ← readValue (rest.length + 1) deepest rest
    let root ← changeAt (assign value true key) d.header d.root
    some ({ d with root }, rest)
  | _ => none

/-- Reads what stands on a line that is not silent. -/
def readStatement (d : Draft) : List Char → Option (Draft × List Char)
  | '[' :: '[' :: text => readGrowingHeader d text
  | '[' :: text => readHeader d text
  | text => readAssignment d text

/-- Reads lines to the end.  Every line takes a character, so the length of the text is `fuel`
enough. -/
def readLines : (fuel : Nat) → Draft → List Char → Option (Entries Toml)
  | 0, _, _ => none
  | fuel + 1, d, text => do
    let text ← dropSilence? text
    match text with
    | [] => some d.root
    | text => do
      let (d, rest) ← readStatement d text
      let rest ← afterLine? rest
      readLines fuel d rest

/-- Reads a document; a mark of the byte order may stand in front of it. -/
def read? (s : String) : Option (Entries Toml) :=
  let text := match s.toList with
    | '\ufeff' :: text => text
    | text => text
  readLines (text.length + 1) ⟨[], []⟩ text

end SqlAccess.Toml
