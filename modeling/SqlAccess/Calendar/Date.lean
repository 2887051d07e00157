/-!
# Dates and times of day

A `Date` is a day of the Gregorian calendar, extended without limit in both directions but for the
bounds of the storage: the years from -262143 to 262142.  A `Date` that does not exist cannot be
built, because the rules for month and day are part of the type.

A `Time` may stand inside a leap second.  It is then written with a nanosecond count of a thousand
million or more behind the second that the leap second follows, and its text shows the second after
that one, which is how the sixtieth second of a minute comes about.
-/

namespace SqlAccess

/-! ## Days -/

/-- The years that a date may have, first and last. -/
def firstYear : Int := -262143

/-- The last year that a date may have. -/
def lastYear : Int := 262142

/-- Whether February has twenty-nine days. -/
def isLeapYear (year : Int) : Bool :=
  year % 4 == 0 && (year % 100 != 0 || year % 400 == 0)

/-- The number of days of a month, none for a number that is no month. -/
def daysInMonth (year : Int) (month : Nat) : Nat :=
  if month = 2 then if isLeapYear year then 29 else 28
  else if month = 4 ∨ month = 6 ∨ month = 9 ∨ month = 11 then 30
  else if 1 ≤ month ∧ month ≤ 12 then 31
  else 0

/-- Whether a day of the given number exists. -/
def IsDate (year : Int) (month day : Nat) : Prop :=
  firstYear ≤ year ∧ year ≤ lastYear ∧ 1 ≤ month ∧ month ≤ 12 ∧ 1 ≤ day ∧
    day ≤ daysInMonth year month

instance (year : Int) (month day : Nat) : Decidable (IsDate year month day) := by
  unfold IsDate; infer_instance

/-- A day of the calendar. -/
structure Date where
  year : Int
  month : Nat
  day : Nat
  isDate : IsDate year month day
deriving DecidableEq

/-- The day of the given number, if it exists. -/
def Date.ofNumbers? (year : Int) (month day : Nat) : Option Date :=
  if h : IsDate year month day then some ⟨year, month, day, h⟩ else none

/-- The numbers of a day find the day again. -/
theorem Date.ofNumbers?_self (d : Date) : Date.ofNumbers? d.year d.month d.day = some d := by
  simp [Date.ofNumbers?, d.isDate]

/-- The day after, unless the calendar ends. -/
def Date.next? (d : Date) : Option Date :=
  Date.ofNumbers? d.year d.month (d.day + 1) <|>
    Date.ofNumbers? d.year (d.month + 1) 1 <|>
    Date.ofNumbers? (d.year + 1) 1 1

/-- The day before, unless the calendar begins. -/
def Date.previous? (d : Date) : Option Date :=
  Date.ofNumbers? d.year d.month (d.day - 1) <|>
    Date.ofNumbers? d.year (d.month - 1) (daysInMonth d.year (d.month - 1)) <|>
    Date.ofNumbers? (d.year - 1) 12 31

/-! ## Times of day -/

/-- A time of day, to the nanosecond.  From `10^9` nanoseconds on it stands inside the leap second
that follows `second`. -/
structure Time where
  hour : Fin 24
  minute : Fin 60
  second : Fin 60
  nanosecond : Fin 2000000000
deriving DecidableEq

/-- The time of the given numbers, if there is one. -/
def Time.ofNumbers? (hour minute second nanosecond : Nat) : Option Time :=
  if h : hour < 24 ∧ minute < 60 ∧ second < 60 ∧ nanosecond < 2000000000 then
    some ⟨⟨hour, h.1⟩, ⟨minute, h.2.1⟩, ⟨second, h.2.2.1⟩, ⟨nanosecond, h.2.2.2⟩⟩
  else none

/-- The first instant of a day. -/
def Time.midnight : Time := ⟨0, 0, 0, 0⟩

/-- Whole seconds since midnight. -/
def Time.seconds (t : Time) : Nat :=
  (t.hour.val * 60 + t.minute.val) * 60 + t.second.val

/-- The time so many seconds after midnight, counted around the clock, with the nanoseconds of
`t`. -/
def Time.withSeconds (t : Time) (seconds : Nat) : Time :=
  { hour := Fin.ofNat 24 (seconds / 3600)
    minute := Fin.ofNat 60 (seconds / 60)
    second := Fin.ofNat 60 seconds
    nanosecond := t.nanosecond }

/-- A date and a time of day, without a time zone. -/
structure DateTime where
  date : Date
  time : Time
deriving DecidableEq

/-- The first instant of a date. -/
def Date.midnight (d : Date) : DateTime := ⟨d, .midnight⟩

/-! ## Time zones -/

/-- A local date and time together with how many seconds its clock is ahead of UTC. -/
structure ZonedDateTime where
  clock : DateTime
  ahead : Int

/-- The same instant on the clock of UTC, unless it falls outside the calendar.  A clock is less
than a day ahead or behind. -/
def ZonedDateTime.utc? (z : ZonedDateTime) : Option DateTime :=
  let seconds : Int := z.clock.time.seconds - z.ahead
  let time := z.clock.time.withSeconds (seconds % 86400).toNat
  let date :=
    if seconds < 0 then z.clock.date.previous?
    else if 86400 ≤ seconds then z.clock.date.next?
    else some z.clock.date
  date.map (⟨·, time⟩)

/-- An instant, told by the clock of UTC. -/
structure UtcDateTime where
  clock : DateTime
deriving DecidableEq

end SqlAccess
