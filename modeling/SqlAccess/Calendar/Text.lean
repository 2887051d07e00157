import SqlAccess.Calendar.Date
import SqlAccess.Text.Ascii

/-!
# Dates and times as text

A date is written year, month, day with hyphens between; the year has at least four digits, and a
year outside 0 to 9999 carries its sign.  A time is written hour, minute, second with colons
between; the second shown inside a leap second is the sixtieth.  What texts differ in is the
character between date and time and the form of the fraction of the second, so these two are
arguments.

* `exactFraction` — no places, or three, six or nine of them: the fewest that show every digit.
* `milliFraction` — always three places, the digits behind them cut off and never rounded.
-/

namespace SqlAccess

/-! ## Fractions of a second -/

/-- The nanoseconds since the second that is shown. -/
def Time.subsecond (t : Time) : Nat :=
  t.nanosecond.val % 1000000000

/-- The second that is shown: inside a leap second, the one after `second`. -/
def Time.shownSecond (t : Time) : Nat :=
  t.second.val + t.nanosecond.val / 1000000000

/-- The fraction of a second in the fewest of zero, three, six or nine places that show it. -/
def exactFraction (t : Time) : List Char :=
  let n := t.subsecond
  if n = 0 then []
  else if n % 1000000 = 0 then '.' :: Text.paddedNat 3 (n / 1000000)
  else if n % 1000 = 0 then '.' :: Text.paddedNat 6 (n / 1000)
  else '.' :: Text.paddedNat 9 n

/-- The whole milliseconds of a fraction of a second. -/
def milliFraction (t : Time) : List Char :=
  '.' :: Text.paddedNat 3 (t.subsecond / 1000000)

/-! ## Dates and times -/

/-- A year in at least four digits, with its sign outside 0 to 9999. -/
def yearText (year : Int) : List Char :=
  if 0 ≤ year ∧ year ≤ 9999 then Text.paddedNat 4 year.natAbs
  else (if year < 0 then '-' else '+') :: Text.paddedNat 4 year.natAbs

/-- Year, month and day. -/
def Date.text (d : Date) : List Char :=
  yearText d.year ++ '-' :: Text.paddedNat 2 d.month ++ '-' :: Text.paddedNat 2 d.day

/-- Hour, minute and second, and the fraction of the second as `fraction` writes it. -/
def Time.text (fraction : Time → List Char) (t : Time) : List Char :=
  Text.paddedNat 2 t.hour.val ++ ':' :: Text.paddedNat 2 t.minute.val ++
    ':' :: Text.paddedNat 2 t.shownSecond ++ fraction t

/-- Date and time with `between` between them. -/
def DateTime.text (between : Char) (fraction : Time → List Char) (dt : DateTime) : List Char :=
  dt.date.text ++ between :: dt.time.text fraction

end SqlAccess
