import SqlAccess.Text.Ascii

/-!
# IPv6 addresses

An IPv6 address is eight groups of sixteen bits.  It is read from groups of at most four hexadecimal
digits with colons between them; two colons stand for a gap that zeros fill, and the last two groups
may be written as four decimal numbers with points.  It is written in one way only: without leading
zeros, and with the first of the longest runs of two or more zero groups left out.
-/

namespace SqlAccess.Url

/-! ## Reading -/

/-- The groups of an address read so far, and how many of them stand before the gap. -/
structure Ipv6Groups where
  groups : List Nat
  gap : Option Nat

/-- A decimal number of at most 255 without leading zeros. -/
def octet? (digits : List Char) : Option Nat :=
  let n := digits.foldl (fun n c => n * 10 + Text.digitValue c) 0
  if digits.isEmpty ∨ !digits.all Char.isDigit then none
  else if digits.head? = some '0' ∧ 1 < digits.length then none
  else if n ≤ 255 then some n
  else none

/-- The two groups that four decimal numbers spell. -/
def decimalGroups? (text : List Char) : Option (List Nat) :=
  match Text.pieces '.' text with
  | [a, b, c, d] => do
    let a ← octet? a
    let b ← octet? b
    let c ← octet? c
    let d ← octet? d
    some [a * 256 + b, c * 256 + d]
  | _ => none

/-- The number that hexadecimal digits spell. -/
def hexNumber (digits : List Char) : Nat :=
  digits.foldl (fun n c => n * 16 + (Text.hexValue? c).getD 0) 0

/-- Reads groups up to the end of the text.  Every step takes a character, so the length of the text
is `fuel` enough. -/
def readGroups? : (fuel : Nat) → Ipv6Groups → List Char → Option Ipv6Groups
  | _, g, [] => some g
  | 0, _, _ => none
  | fuel + 1, g, c :: text =>
    if g.groups.length = 8 then none
    else if c = ':' then
      match g.gap with
      | some _ => none
      | none => readGroups? fuel ⟨g.groups ++ [0], some (g.groups.length + 1)⟩ text
    else
      let digits := ((c :: text).take 4).takeWhile Text.isHexDigit
      match (c :: text).drop digits.length with
      | [] => some { g with groups := g.groups ++ [hexNumber digits] }
      | ':' :: rest =>
        if rest.isEmpty then none
        else readGroups? fuel { g with groups := g.groups ++ [hexNumber digits] } rest
      | '.' :: _ =>
        if digits.isEmpty ∨ 6 < g.groups.length then none
        else (decimalGroups? (c :: text)).map fun two => { g with groups := g.groups ++ two }
      | _ => none

/-- The eight groups, the gap filled with zeros. -/
def Ipv6Groups.filled? (g : Ipv6Groups) : Option (List Nat) :=
  match g.gap with
  | none => if g.groups.length = 8 then some g.groups else none
  | some before =>
    some (g.groups.take before ++ List.replicate (8 - g.groups.length) 0 ++ g.groups.drop before)

/-- Reads an address. -/
def readIpv6? (text : List Char) : Option (List Nat) :=
  match text with
  | [] => none
  | [_] => none
  | ':' :: ':' :: rest => do
    let g ← readGroups? rest.length ⟨[0], some 1⟩ rest
    g.filled?
  | ':' :: _ => none
  | _ => do
    let g ← readGroups? text.length ⟨[], none⟩ text
    g.filled?

/-! ## Writing -/

/-- How many zeros a list of groups starts with. -/
def zerosInFront (groups : List Nat) : Nat :=
  (groups.takeWhile (· = 0)).length

/-- Where the first of the longest runs of zeros starts, and how long it is. -/
def longestZeros : List Nat → Nat × Nat
  | [] => (0, 0)
  | group :: groups =>
    let here := zerosInFront (group :: groups)
    let (start, length) := longestZeros groups
    if length ≤ here then (0, here) else (start + 1, length)

/-- Groups with colons between them. -/
def groupsText (groups : List Nat) : List Char :=
  (":".intercalate (groups.map fun n => String.ofList (Text.hexNat n))).toList

/-- The address in its written form. -/
def ipv6Text (groups : List Nat) : List Char :=
  let (start, length) := longestZeros groups
  if length < 2 then groupsText groups
  else groupsText (groups.take start) ++ [':', ':'] ++ groupsText (groups.drop (start + length))

end SqlAccess.Url
