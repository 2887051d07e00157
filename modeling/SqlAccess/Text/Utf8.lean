/-!
# Bytes as UTF-8 text

Column values and percent-encoded parts of an address arrive as bytes.  Reading them as text needs
three answers: the text, the place and kind of the first fault, and the text with every fault
replaced.  One function, `decodeOne`, reads a single character and the other two walk over it.

A fault covers the longest run of bytes that began a character and could not go on: one byte that
starts nothing, or a start whose next byte does not continue it.  A start that the end of the bytes
cuts off is told apart, because more bytes might complete it.
-/

namespace SqlAccess.Text

/-! ## One character -/

/-- What stands at the head of a run of bytes. -/
inductive Utf8Step where
  /-- A character, and the bytes after it. -/
  | char (c : Char) (rest : List UInt8)
  /-- A fault covering `size` bytes, and the bytes after it. -/
  | invalid (size : Nat) (rest : List UInt8)
  /-- The bytes end inside a character. -/
  | incomplete

/-- A byte of the form `10xxxxxx`. -/
def isContinuation (b : UInt8) : Bool :=
  0x80 ≤ b && b ≤ 0xBF

/-- The six payload bits of a continuation byte. -/
def payload (b : UInt8) : Nat :=
  b.toNat % 64

/-- Whether the second byte of a three-byte character may follow its first: it excludes forms that
are too long and the surrogates. -/
def secondOfThree (first second : UInt8) : Bool :=
  if first == 0xE0 then 0xA0 ≤ second && second ≤ 0xBF
  else if first == 0xED then 0x80 ≤ second && second ≤ 0x9F
  else isContinuation second

/-- Whether the second byte of a four-byte character may follow its first: it excludes forms that
are too long and code points beyond the last plane. -/
def secondOfFour (first second : UInt8) : Bool :=
  if first == 0xF0 then 0x90 ≤ second && second ≤ 0xBF
  else if first == 0xF4 then 0x80 ≤ second && second ≤ 0x8F
  else isContinuation second

/-- Reads one more byte of a character of which `size` bytes were read: `fits` tells whether the
byte may stand there, and `next` goes on behind it. -/
def nextByte (fits : UInt8 → Bool) (size : Nat) (rest : List UInt8)
    (next : UInt8 → List UInt8 → Utf8Step) : Utf8Step :=
  match rest with
  | [] => .incomplete
  | b :: after => if fits b then next b after else .invalid size rest

/-- Reads one character whose first byte is `first`. -/
def decodeOne (first : UInt8) (rest : List UInt8) : Utf8Step :=
  if first < 0x80 then .char (Char.ofNat first.toNat) rest
  else if 0xC2 ≤ first && first ≤ 0xDF then
    nextByte isContinuation 1 rest fun b after =>
      .char (Char.ofNat ((first.toNat - 0xC0) * 64 + payload b)) after
  else if 0xE0 ≤ first && first ≤ 0xEF then
    nextByte (secondOfThree first) 1 rest fun b after =>
      nextByte isContinuation 2 after fun c after =>
        .char (Char.ofNat (((first.toNat - 0xE0) * 64 + payload b) * 64 + payload c)) after
  else if 0xF0 ≤ first && first ≤ 0xF4 then
    nextByte (secondOfFour first) 1 rest fun b after =>
      nextByte isContinuation 2 after fun c after =>
        nextByte isContinuation 3 after fun d after =>
          .char (Char.ofNat ((((first.toNat - 0xF0) * 64 + payload b) * 64 + payload c) * 64
            + payload d)) after
  else .invalid 1 rest

/-- The bytes that a step leaves over, none for a character that is cut off. -/
def Utf8Step.rest : Utf8Step → List UInt8
  | .char _ rest => rest
  | .invalid _ rest => rest
  | .incomplete => []

/-- A further byte leaves no more bytes than there were. -/
theorem nextByte_rest_length {fits : UInt8 → Bool} {size : Nat} {rest : List UInt8}
    {next : UInt8 → List UInt8 → Utf8Step}
    (h : ∀ b after, (next b after).rest.length ≤ after.length) :
    (nextByte fits size rest next).rest.length ≤ rest.length := by
  unfold nextByte
  split
  · simp [Utf8Step.rest]
  · rename_i b after
    split
    · exact Nat.le_succ_of_le (h b after)
    · simp [Utf8Step.rest]

/-- A step leaves no more bytes than stood behind the first. -/
theorem decodeOne_rest_length (first : UInt8) (rest : List UInt8) :
    (decodeOne first rest).rest.length ≤ rest.length := by
  unfold decodeOne
  split
  · exact Nat.le_refl _
  split
  · exact nextByte_rest_length fun _ _ => Nat.le_refl _
  split
  · exact nextByte_rest_length fun _ _ => nextByte_rest_length fun _ _ => Nat.le_refl _
  split
  · exact nextByte_rest_length fun _ _ => nextByte_rest_length fun _ _ =>
      nextByte_rest_length fun _ _ => Nat.le_refl _
  · exact Nat.le_refl _

/-! ## Whole texts -/

/-- Why bytes are not text. -/
inductive Utf8Error where
  /-- `size` bytes from `index` on are part of no character. -/
  | invalid (size index : Nat)
  /-- The bytes end inside the character that starts at `index`. -/
  | incomplete (index : Nat)
deriving DecidableEq, Repr

/-- What is wrong with the bytes, in words. -/
def Utf8Error.message : Utf8Error → String
  | .invalid size index => s!"invalid utf-8 sequence of {size} bytes from index {index}"
  | .incomplete index => s!"incomplete utf-8 byte sequence from index {index}"

/-- Reads bytes from `index` on, `read` being the characters before it in reverse. A character takes
as many bytes as its encoding has. -/
def decodeFrom (read : List Char) (index : Nat) (bytes : List UInt8) :
    Except Utf8Error (List Char) :=
  match bytes with
  | [] => .ok read.reverse
  | first :: rest =>
    match _step : decodeOne first rest with
    | .char c after => decodeFrom (c :: read) (index + c.utf8Size) after
    | .invalid size _ => .error (.invalid size index)
    | .incomplete => .error (.incomplete index)
termination_by bytes.length
decreasing_by
  have := decodeOne_rest_length first rest
  rw [_step] at this
  exact Nat.lt_succ_of_le this

/-- The text that the bytes spell, or the first fault. -/
def utf8Decode (bytes : List UInt8) : Except Utf8Error String :=
  (decodeFrom [] 0 bytes).map String.ofList

/-- The characters that the bytes spell, each fault replaced by the replacement character. -/
def lossyFrom (read : List Char) (bytes : List UInt8) : List Char :=
  match bytes with
  | [] => read.reverse
  | first :: rest =>
    match _step : decodeOne first rest with
    | .char c after => lossyFrom (c :: read) after
    | .invalid _ after => lossyFrom ('\ufffd' :: read) after
    | .incomplete => ('\ufffd' :: read).reverse
termination_by bytes.length
decreasing_by
  all_goals
    have := decodeOne_rest_length first rest
    rw [_step] at this
    exact Nat.lt_succ_of_le this

/-- The text that the bytes spell, with U+FFFD for each fault. -/
def utf8DecodeLossy (bytes : List UInt8) : String :=
  String.ofList (lossyFrom [] bytes)

/-- The UTF-8 bytes of a text. -/
def utf8Encode (s : String) : List UInt8 :=
  s.toUTF8.toList

end SqlAccess.Text
