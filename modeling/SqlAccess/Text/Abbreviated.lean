/-!
# Texts cut to a length

Statements are quoted in messages and logs, and a long statement is cut there.  The limit counts
bytes, but a character is never cut in two: what is kept is the longest beginning of whole
characters that has at most that many bytes, with three dots behind it.

It can be found from either end: character by character from the start of the text (`takeBytes`), or
byte by byte back from the limit (`lastBoundary`).
-/

namespace SqlAccess.Text

/-- The longest beginning of whole characters that takes at most `room` bytes. -/
def takeBytes : (room : Nat) → List Char → List Char
  | _, [] => []
  | room, c :: text => if c.utf8Size ≤ room then c :: takeBytes (room - c.utf8Size) text else []

/-- The number of bytes that characters take. -/
def byteCount : List Char → Nat
  | [] => 0
  | c :: text => c.utf8Size + byteCount text

/-- The last number of bytes up to `limit` at which no character is cut in two, by steps back. -/
def lastBoundary (s : String) : (limit : Nat) → Nat
  | 0 => 0
  | n + 1 => if (⟨n + 1⟩ : String.Pos.Raw).IsValid s then n + 1 else lastBoundary s n

/-- The text itself if it has at most `limit` bytes, else as much of it as fits and three dots. -/
def abbreviated (limit : Nat) (text : List Char) : List Char :=
  if byteCount text ≤ limit then text else takeBytes limit text ++ ['.', '.', '.']

/-- What is kept takes no more bytes than there is room for. -/
theorem byteCount_takeBytes_le (room : Nat) (text : List Char) :
    byteCount (takeBytes room text) ≤ room := by
  induction text generalizing room with
  | nil => simp [takeBytes, byteCount]
  | cons c text ih =>
    by_cases h : c.utf8Size ≤ room
    · simp only [takeBytes, h, if_true, byteCount]
      have := ih (room - c.utf8Size)
      omega
    · simp [takeBytes, h, byteCount]

end SqlAccess.Text
