import SqlAccess.Entries

/-!
# JSON values

A JSON value as filters, records and answers use it.  Objects keep the order of their members.
Whole numbers are kept exactly as far as 64 bits reach, signed or unsigned; every other number is a
binary floating-point number.
-/

namespace SqlAccess

/-- A whole number of 64 bits, signed or unsigned. -/
structure WideInteger where
  val : Int
  inRange : -9223372036854775808 ≤ val ∧ val < 18446744073709551616
deriving DecidableEq

/-- The number, if it fits. -/
def WideInteger.ofInt? (n : Int) : Option WideInteger :=
  if h : -9223372036854775808 ≤ n ∧ n < 18446744073709551616 then some ⟨n, h⟩ else none

/-- A signed word is a wide integer. -/
def WideInteger.ofInt64 (n : Int64) : WideInteger :=
  ⟨n.toInt, by have := n.le_toInt; have := n.toInt_lt; omega⟩

/-- An unsigned word is a wide integer. -/
def WideInteger.ofUInt64 (n : UInt64) : WideInteger :=
  ⟨n.toNat, by have := n.toNat_lt; omega⟩

/-- A JSON value. -/
inductive Json where
  | null
  | bool (b : Bool)
  | integer (n : WideInteger)
  | float (x : Float)
  | string (s : String)
  | array (items : List Json)
  | object (members : List (String × Json))

instance : Inhabited Json := ⟨.null⟩

end SqlAccess
