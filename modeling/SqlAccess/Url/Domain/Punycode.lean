import SqlAccess.Text.Ascii

/-!
# Punycode

A label with characters beyond ASCII can be written in ASCII: first its ASCII characters, then a
hyphen if there are any, and then where to insert which of the others.  Insertions come in the order
of code points, each as the distance from the one before, counted over all places and code points in
between.  A distance is a number in base 36 whose digits, least first, end with the first one below
a threshold; the thresholds follow the size of the distances.

Numbers of more than 32 bits are refused.
-/

namespace SqlAccess.Url

/-- The value of a digit: letters come first. -/
def punycodeDigit? (c : Char) : Option Nat :=
  if c.isLower then some (c.toNat - 97)
  else if c.isDigit then some (c.toNat - 48 + 26)
  else none

/-- The number, if it has at most 32 bits. -/
def word32? (n : Nat) : Option Nat :=
  if n < 4294967296 then some n else none

/-- The threshold of the digit at place `k`, counted in steps of 36 from 36 on. -/
def digitThreshold (k bias : Nat) : Nat :=
  if k ≤ bias then 1 else if bias + 26 ≤ k then 26 else k - bias

/-- The bias for a distance of `delta` and for `k`, which counts in steps of 36 how often the
distance has been divided. -/
def biasOf (delta k : Nat) : Nat :=
  if 455 < delta then biasOf (delta / 35) (k + 36) else k + 36 * delta / (delta + 38)
termination_by delta
decreasing_by exact Nat.div_lt_self (by omega) (by omega)

/-- The bias after a distance that led to a label of `count` characters. -/
def adaptedBias (distance count : Nat) (isFirst : Bool) : Nat :=
  let delta := if isFirst then distance / 700 else distance / 2
  biasOf (delta + delta / count) 0

/-- Reads a distance and adds it to `sum`. -/
def readDistance (bias k weight sum : Nat) : List Char → Option (Nat × List Char)
  | [] => none
  | c :: text => do
    let digit ← punycodeDigit? c
    let sum ← word32? (sum + digit * weight)
    let threshold := digitThreshold k bias
    if digit < threshold then some (sum, text)
    else
      let weight ← word32? (weight * (36 - threshold))
      readDistance bias (k + 36) weight sum text

/-- Inserts characters into `label`, from the place and the code point of the last insertion on.
Every distance takes a character of the text, so its length is `fuel` enough. -/
def insertAll : (fuel : Nat) → (label : List Char) → (bias place code : Nat) → List Char →
    Option (List Char)
  | 0, _, _, _, _, _ => none
  | _ + 1, label, _, _, _, [] => some label
  | fuel + 1, label, bias, place, code, text => do
    let (sum, rest) ← readDistance bias 36 1 place text
    let count := label.length + 1
    let code := code + sum / count
    let place' := sum % count
    if code.isValidChar then
      insertAll fuel (label.insertIdx place' (Char.ofNat code))
        (adaptedBias (sum - place) count (place == 0)) (place' + 1) code rest
    else none

/-- The label that a text in lower case stands for. -/
def decodePunycode? (text : List Char) : Option (List Char) :=
  let behind := (text.reverse.takeWhile (· ≠ '-')).reverse
  let front := text.take (text.length - behind.length - 1)
  let insertions := if front.isEmpty then text else behind
  insertAll (insertions.length + 1) front 72 0 128 insertions

end SqlAccess.Url
