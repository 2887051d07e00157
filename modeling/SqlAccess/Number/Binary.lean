/-!
# Binary floating-point numbers, as integers

A binary floating-point number is a sign, a significand `m` and a power of two: its value is
`m · 2^q`.  `BinaryFormat` says how many bits each part has; the library uses two formats, `single`
and `double`.  Between the bits of a number and its value stand two functions:

* `BinaryFormat.decode` reads the bits apart, and
* `BinaryFormat.round` finds the bits of the number nearest to a quotient of natural numbers, a
  quotient halfway between two numbers going to the one with an even significand.

Both are exact arithmetic on natural numbers, so that what is read from text and what is written as
text can be reasoned about without reference to a machine's own arithmetic.
-/

namespace SqlAccess

/-- The quotient rounded to the nearest whole number, a half to the even neighbour. -/
def divHalfEven (n d : Nat) : Nat :=
  let quotient := n / d
  let twice := 2 * (n % d)
  if twice < d then quotient
  else if d < twice then quotient + 1
  else if quotient % 2 = 0 then quotient else quotient + 1

/-- How the bits of a floating-point number are shared out. -/
structure BinaryFormat where
  /-- The stored bits of the significand. -/
  fractionBits : Nat
  /-- The bits of the exponent. -/
  exponentBits : Nat

/-- Numbers of 32 bits. -/
def BinaryFormat.single : BinaryFormat := ⟨23, 8⟩

/-- Numbers of 64 bits. -/
def BinaryFormat.double : BinaryFormat := ⟨52, 11⟩

/-- A number read apart: its magnitude, the sign being kept beside it. -/
inductive Magnitude where
  | nan
  | infinite
  /-- The value `m · 2^q`. -/
  | finite (m : Nat) (q : Int)

namespace BinaryFormat

/-- The significand from which on all stored bits are in use. -/
def leading (format : BinaryFormat) : Nat := Nat.pow 2 format.fractionBits

/-- The smallest power of two of the format. -/
def lowestPower (format : BinaryFormat) : Int :=
  2 - Nat.pow 2 (format.exponentBits - 1) - (format.fractionBits : Int)

/-- The bits of infinity, without the sign. -/
def infinityBits (format : BinaryFormat) : Nat :=
  (Nat.pow 2 format.exponentBits - 1) * format.leading

/-- The bit that marks a negative number. -/
def signBit (format : BinaryFormat) : Nat :=
  Nat.pow 2 (format.exponentBits + format.fractionBits)

/-- Whether the bits are those of a negative number. -/
def isNegative (format : BinaryFormat) (bits : Nat) : Bool :=
  bits / format.signBit % 2 == 1

/-- The magnitude that the bits spell. -/
def decode (format : BinaryFormat) (bits : Nat) : Magnitude :=
  let magnitude := bits % format.signBit
  if magnitude = format.infinityBits then .infinite
  else if format.infinityBits < magnitude then .nan
  else
    let stored := magnitude % format.leading
    let exponent := magnitude / format.leading
    if exponent = 0 then .finite stored format.lowestPower
    else .finite (format.leading + stored) (format.lowestPower + (exponent - 1 : Nat))

/-- The floor of the binary logarithm of the positive quotient `n / d`. -/
def quotientLog (n d : Nat) : Int :=
  let guess : Int := (n.log2 : Int) - d.log2
  let shift := Nat.pow 2 guess.natAbs
  let reached := if guess < 0 then d ≤ n * shift else d * shift ≤ n
  if reached then guess else guess - 1

/-- The bits of the number nearest to `n / d`, without the sign.  A power of two that is too large
gives infinity. -/
def round (format : BinaryFormat) (n d : Nat) : Nat :=
  if n = 0 then 0
  else
    let power := max (quotientLog n d - format.fractionBits) format.lowestPower
    let significand :=
      if power < 0 then divHalfEven (n * Nat.pow 2 power.natAbs) d
      else divHalfEven n (d * Nat.pow 2 power.natAbs)
    min format.infinityBits ((power - format.lowestPower).toNat * format.leading + significand)

end BinaryFormat

end SqlAccess
