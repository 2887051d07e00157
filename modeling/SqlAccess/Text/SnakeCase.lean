import SqlAccess.Text.LetterCase

/-!
# Names in snake case

`lastName`, `LastName`, `last name` and `last-name` are all stored as `last_name`.  A name is cut
into words twice:

* at every character that is neither a letter nor a number, which is dropped, and
* inside such a piece where the case changes: after a lower-case letter before an upper-case one
  (`last|Name`), and before the last capital of a run that a lower-case letter follows
  (`XML|Http`).  Numbers belong to the word they follow.

The words are then put in lower case and joined by single underscores.  A capital sigma at the end
of a word becomes the final form `ς`.
-/

namespace SqlAccess.Text

/-! ## Pieces -/

/-- The pieces between characters that are neither letters nor numbers; empty pieces are left
out.  `piece` is the piece being read. -/
def alphanumericPiecesFrom (piece : List Char) : List Char → List (List Char)
  | [] => if piece.isEmpty then [] else [piece]
  | c :: text =>
    if isAlphanumeric c then alphanumericPiecesFrom (piece ++ [c]) text
    else if piece.isEmpty then alphanumericPiecesFrom [] text
    else piece :: alphanumericPiecesFrom [] text

/-- The pieces of a name between characters that are neither letters nor numbers. -/
def alphanumericPieces (text : List Char) : List (List Char) :=
  alphanumericPiecesFrom [] text

/-! ## Words -/

/-- The case of the last cased letter of the word being read. -/
inductive WordCase where
  /-- No cased letter since the word began. -/
  | uncased
  | lower
  | upper
deriving DecidableEq, Repr

/-- The case of the word once `c` belongs to it. -/
def WordCase.step (case : WordCase) (c : Char) : WordCase :=
  if isLowercase c then .lower else if isUppercase c then .upper else case

/-- The words of a piece.  `word` is the word being read and `case` the case of its last cased
letter; a boundary falls after the character at hand (lower before upper) or before it (the last
capital of a run, with a lower-case letter next). -/
def caseWordsFrom (word : List Char) (case : WordCase) : List Char → List (List Char)
  | [] => if word.isEmpty then [] else [word]
  | [c] => [word ++ [c]]
  | c :: next :: text =>
    if case.step c = .lower && isUppercase next then
      (word ++ [c]) :: caseWordsFrom [] .uncased (next :: text)
    else if case = .upper && isUppercase c && isLowercase next then
      word :: caseWordsFrom [c] .uncased (next :: text)
    else caseWordsFrom (word ++ [c]) (case.step c) (next :: text)

/-- The words of a piece, cut where the case changes. -/
def caseWords (piece : List Char) : List (List Char) :=
  caseWordsFrom [] .uncased piece

/-! ## The name -/

/-- A word in lower case; a sigma that ends it takes its final form. -/
def lowerWord : List Char → List Char
  | [] => []
  | [c] => if c = 'Σ' then ['ς'] else lowerOf c
  | c :: word => lowerOf c ++ lowerWord word

/-- The name in snake case. -/
def snakeCase (s : String) : String :=
  let words := (alphanumericPieces s.toList).flatMap caseWords
  String.ofList (List.intercalate ['_'] (words.map lowerWord))

end SqlAccess.Text
