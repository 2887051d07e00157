import SqlAccess.Number.Binary
import SqlAccess.Text.Ascii

/-!
# Decimal numbers: the fewest digits, and how they are written

A decimal is a whole number of tenths, hundredths and so on: `coefficient · 10^exponent`.

* `Decimal.shortest` finds, for a binary number, the decimal with the fewest digits that reads back
  as the same binary number, and of those the nearest.  It asks, for one digit, two digits and so
  on, which of the two neighbours of the value on that decimal grid lies among the reals that round
  to the binary number: if any point of the grid does, one of the two neighbours does, so the first
  grid with a hit has the fewest digits.
* `Decimal.positional` writes all digits out, without an exponent.
* `Decimal.scientific` writes one digit, the others behind a point, and a power of ten.  How the
  power is written differs between texts, so the writer of the power is an argument.
* `Decimal.bits` rounds a decimal to a binary format.
-/

namespace SqlAccess

/-- The number `coefficient · 10^exponent`. -/
structure Decimal where
  coefficient : Nat
  exponent : Int
deriving DecidableEq, Repr

namespace Decimal

/-! ## Writing -/

/-- The same number without trailing zeros in the coefficient.  `fuel` bounds the zeros removed. -/
def stripZeros : (fuel : Nat) → Decimal → Decimal
  | 0, d => d
  | fuel + 1, d =>
    if d.coefficient ≠ 0 ∧ d.coefficient % 10 = 0 then
      stripZeros fuel ⟨d.coefficient / 10, d.exponent + 1⟩
    else d

/-- All digits, with a point where a fraction follows.  `point` asks for a fraction even where the
number is whole. -/
def positional (d : Decimal) (point : Bool) : List Char :=
  let digits := Nat.toDigits 10 d.coefficient
  if 0 ≤ d.exponent then
    digits ++ List.replicate d.exponent.toNat '0' ++ (if point then ['.', '0'] else [])
  else
    let places := d.exponent.natAbs
    let padded := List.replicate (places + 1 - digits.length) '0' ++ digits
    padded.take (padded.length - places) ++ '.' :: padded.drop (padded.length - places)

/-- One digit, the others behind a point if there are any, and the power of ten as `writePower`
writes it. -/
def scientific (writePower : Int → List Char) (d : Decimal) : List Char :=
  match Nat.toDigits 10 d.coefficient with
  | [] => []
  | first :: others =>
    first :: (if others.isEmpty then [] else '.' :: others) ++
      'e' :: writePower (d.exponent + others.length)

/-! ## The fewest digits -/

/-- The largest `k` below `fuel` more than `start` with `10^k ≤ n`, where `10^start ≤ n`. -/
def digitCountFrom (n : Nat) : (fuel start : Nat) → Nat
  | 0, start => start
  | fuel + 1, start => if Nat.pow 10 start ≤ n then digitCountFrom n fuel (start + 1) else start

/-- How many decimal digits a positive number has. -/
def digitCount (n : Nat) : Nat :=
  digitCountFrom n (n.log2 + 1) 0

/-- The least `k` with `10^k · n ≥ d`, for positive `n`.  `fuel` bounds the search. -/
def leadingZerosFrom (n d : Nat) : (fuel k : Nat) → Nat
  | 0, k => k
  | fuel + 1, k => if d ≤ n * Nat.pow 10 k then k else leadingZerosFrom n d fuel (k + 1)

/-- The `k` with `10^(k-1) ≤ n / d < 10^k`. -/
def decimalMagnitude (n d : Nat) : Int :=
  if d ≤ n then digitCount (n / d)
  else 1 - (leadingZerosFrom n d (d.log2 + 1) 0 : Nat)

/-- Where a value lies exactly between two decimals of the same length. -/
inductive Tie where
  /-- The larger one is taken. -/
  | up
  /-- The one with an even last digit is taken. -/
  | even
deriving DecidableEq, Repr

/-- The reals that round to a binary number: all between `low` and `high`, in units of `1 / scale`,
and the two ends as well if `closed`.  `value` is the number itself in the same units. -/
structure Rounding where
  low : Nat
  value : Nat
  high : Nat
  scale : Nat
  closed : Bool

/-- Whether `c · 10^p` is among the reals that round to the number. -/
def Rounding.holds (r : Rounding) (c : Nat) (p : Int) : Bool :=
  let point := if p < 0 then c * r.scale else c * Nat.pow 10 p.natAbs * r.scale
  let unit := if p < 0 then Nat.pow 10 p.natAbs else 1
  if r.closed then r.low * unit ≤ point && point ≤ r.high * unit
  else r.low * unit < point && point < r.high * unit

/-- The neighbour of the value on the grid of multiples of `10^p` that rounds to the number, the
nearer one if both do, and the one `tie` names at equal distance. -/
def Rounding.onGrid (r : Rounding) (tie : Tie) (p : Int) : Option Nat :=
  let n := if p < 0 then r.value * Nat.pow 10 p.natAbs else r.value
  let d := if p < 0 then r.scale else r.scale * Nat.pow 10 p.natAbs
  let below := n / d
  let twice := 2 * (n % d)
  let nearBelow := twice < d ∨ (twice = d ∧ tie = .even ∧ below % 2 = 0)
  match r.holds below p && 0 < below, r.holds (below + 1) p with
  | true, true => if nearBelow then some below else some (below + 1)
  | true, false => some below
  | false, true => some (below + 1)
  | false, false => none

/-- Tries grids of one digit more each time, `fuel` of them. -/
def shortestFrom (r : Rounding) (tie : Tie) (magnitude : Int) : (fuel digits : Nat) → Decimal
  | 0, _ => ⟨0, 0⟩
  | fuel + 1, digits =>
    let p := magnitude - digits
    match r.onGrid tie p with
    | some c => stripZeros (digits + 1) ⟨c, p⟩
    | none => shortestFrom r tie magnitude fuel (digits + 1)

/-- The reals that round to `m · 2^q`.  Below a significand that starts a new power of two the next
number is only half as far away. -/
def roundingOf (format : BinaryFormat) (m : Nat) (q : Int) : Rounding :=
  let narrow := m = format.leading ∧ format.lowestPower < q
  let unit := q - 2
  let up := if unit < 0 then 1 else Nat.pow 2 unit.natAbs
  let scale := if unit < 0 then Nat.pow 2 unit.natAbs else 1
  { low := (if narrow then 4 * m - 1 else 4 * m - 2) * up
    value := 4 * m * up
    high := (4 * m + 2) * up
    scale := scale
    closed := m % 2 = 0 }

/-- The decimal with the fewest digits that reads back as `m · 2^q`, and of those the nearest.
Eighteen digits are enough for every number of the two formats. -/
def shortest (format : BinaryFormat) (tie : Tie) (m : Nat) (q : Int) : Decimal :=
  if m = 0 then ⟨0, 0⟩
  else
    let r := roundingOf format m q
    shortestFrom r tie (decimalMagnitude r.value r.scale) 18 1

/-! ## Rounding to a binary format -/

/-- The bits of the binary number nearest to a decimal.  Decimals far outside every format are
answered before any power is computed: from `10^400` on the answer is infinity, and below `10^-400`
it is zero. -/
def bits (format : BinaryFormat) (d : Decimal) : Nat :=
  if d.coefficient = 0 then 0
  else
    let magnitude := d.exponent + digitCount d.coefficient
    if 400 < magnitude then format.infinityBits
    else if magnitude < -400 then 0
    else if d.exponent < 0 then format.round d.coefficient (Nat.pow 10 d.exponent.natAbs)
    else format.round (d.coefficient * Nat.pow 10 d.exponent.natAbs) 1

end Decimal

end SqlAccess
