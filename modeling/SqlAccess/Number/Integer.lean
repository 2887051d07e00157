import SqlAccess.Text.Ascii

/-!
# Whole numbers of a bounded range, read from text

A column or a configuration field holds a whole number of a known range.  The written form is an
optional sign and at least one decimal digit; a minus sign belongs to the grammar only where
negative numbers do.  Digits are read from the left, and the first obstacle decides the answer: a
character that is no digit, or a digit that carries the number past the range.  So a number that is
both too long and misspelt is reported for whichever comes first.
-/

namespace SqlAccess

/-- Why a text or a number is not a whole number of the wanted range. -/
inductive IntegerError where
  | empty
  | invalidDigit
  | tooLarge
  | tooSmall
deriving DecidableEq, Repr

/-- The fault, in words. -/
def IntegerError.message : IntegerError → String
  | .empty => "cannot parse integer from empty string"
  | .invalidDigit => "invalid digit found in string"
  | .tooLarge => "number too large to fit in target type"
  | .tooSmall => "number too small to fit in target type"

/-- Reads digits behind the number `n`, answering `beyond` as soon as the number passes `limit`. -/
def readDigits (limit : Nat) (beyond : IntegerError) : Nat → List Char → Except IntegerError Nat
  | n, [] => .ok n
  | n, c :: text =>
    if c.isDigit then
      let extended := n * 10 + Text.digitValue c
      if extended ≤ limit then readDigits limit beyond extended text else .error beyond
    else .error .invalidDigit

/-- A range of whole numbers that contains zero. -/
structure IntegerRange where
  /-- How far the range reaches below zero. -/
  below : Nat
  /-- The largest number of the range. -/
  above : Nat
deriving DecidableEq, Repr

namespace IntegerRange

/-- The numbers of a signed word of `bits + 1` bits. -/
def signed (bits : Nat) : IntegerRange := ⟨Nat.pow 2 bits, Nat.pow 2 bits - 1⟩

/-- The numbers of an unsigned word of `bits` bits. -/
def unsigned (bits : Nat) : IntegerRange := ⟨0, Nat.pow 2 bits - 1⟩

/-- Whether a number lies in the range. -/
def Contains (range : IntegerRange) (n : Int) : Prop :=
  -(range.below : Int) ≤ n ∧ n ≤ range.above

instance (range : IntegerRange) (n : Int) : Decidable (range.Contains n) := by
  unfold Contains; infer_instance

/-- The number itself if it lies in the range. -/
def fit (range : IntegerRange) (n : Int) : Except IntegerError Int :=
  if n < -(range.below : Int) then .error .tooSmall
  else if range.above < n then .error .tooLarge
  else .ok n

/-- Reads a number of the range from its decimal text. -/
def read (range : IntegerRange) : List Char → Except IntegerError Int
  | [] => .error .empty
  | ['+'] => .error .invalidDigit
  | ['-'] => .error .invalidDigit
  | '+' :: digits => (readDigits range.above .tooLarge 0 digits).map Int.ofNat
  | '-' :: digits =>
    if range.below = 0 then .error .invalidDigit
    else (readDigits range.below .tooSmall 0 digits).map fun n => -(n : Int)
  | digits => (readDigits range.above .tooLarge 0 digits).map Int.ofNat

end IntegerRange

/-- A number that fits is answered unchanged, and nothing else is answered. -/
theorem IntegerRange.fit_eq_ok_iff {range : IntegerRange} {n m : Int} :
    range.fit n = .ok m ↔ range.Contains n ∧ m = n := by
  unfold fit Contains
  split
  · simp; omega
  · split
    · simp; omega
    · simp only [Except.ok.injEq]; omega

end SqlAccess
