/-!
# Pieces of a text by the places of its bytes

A place in a text is the number of bytes in front of it, and a piece lies between two places.  A
place inside of a character is none where a text can be cut, and neither is one behind its end.
-/

namespace SqlAccess.Text

/-- What is in front of the place `n` and what is behind it, if the text can be cut there. -/
def cutAt? : (n : Nat) → List Char → Option (List Char × List Char)
  | 0, text => some ([], text)
  | _ + 1, [] => none
  | n + 1, c :: text =>
    if c.utf8Size ≤ n + 1 then
      (cutAt? (n + 1 - c.utf8Size) text).map fun (before, behind) => (c :: before, behind)
    else none

/-- The piece between two places, if the text can be cut at both. -/
def slice? (first last : Nat) (text : List Char) : Option (List Char) :=
  if first ≤ last then do
    let (_, behind) ← cutAt? first text
    let (piece, _) ← cutAt? (last - first) behind
    some piece
  else none

end SqlAccess.Text
