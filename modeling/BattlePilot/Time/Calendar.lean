/-!
Dates of the Gregorian calendar, and the date a number of days after 1 January 1970.
-/

namespace BattlePilot

structure Date where
  year : Nat
  month : Nat
  day : Nat
  deriving DecidableEq, Repr

namespace Date

def isLeap (year : Nat) : Bool :=
  year % 4 == 0 && (year % 100 != 0 || year % 400 == 0)

def daysInMonth (year month : Nat) : Nat :=
  if month = 2 then (if isLeap year then 29 else 28)
  else if month = 4 ∨ month = 6 ∨ month = 9 ∨ month = 11 then 30
  else 31

/-- Whether the calendar has the date. -/
def isValid (d : Date) : Bool :=
  1 ≤ d.month && d.month ≤ 12 && 1 ≤ d.day && d.day ≤ daysInMonth d.year d.month

/-- The day after. -/
def next (d : Date) : Date :=
  if d.day < daysInMonth d.year d.month then { d with day := d.day + 1 }
  else if d.month < 12 then ⟨d.year, d.month + 1, 1⟩
  else ⟨d.year + 1, 1, 1⟩

/-! The closed form counts from 1 March of year 0, so that a leap day is the last day of its
year, of its four years and of its era of 400 years. -/

/-- Days from 1 March 0 to 1 January 1970. -/
def epochShift : Nat := 719468

/-- Days of 400 years. -/
def eraDays : Nat := 146097

def yearOfEra (dayOfEra : Nat) : Nat :=
  (dayOfEra - dayOfEra / 1460 + dayOfEra / 36524 - dayOfEra / 146096) / 365

/-- Days since the last 1 March. -/
def dayOfYear (dayOfEra : Nat) : Nat :=
  let year := yearOfEra dayOfEra
  dayOfEra - (365 * year + year / 4 - year / 100)

/-- Months since March; five of them have 153 days. -/
def monthIndex (dayOfYear : Nat) : Nat :=
  (5 * dayOfYear + 2) / 153

/-- The date `days` days after 1 January 1970. -/
def ofDays (days : Nat) : Date :=
  let shifted := days + epochShift
  let dayOfEra := shifted % eraDays
  let index := monthIndex (dayOfYear dayOfEra)
  let month := if index < 10 then index + 3 else index - 9
  { year := shifted / eraDays * 400 + yearOfEra dayOfEra + (if month ≤ 2 then 1 else 0)
    month
    day := dayOfYear dayOfEra - (153 * index + 2) / 5 + 1 }

end Date
end BattlePilot
