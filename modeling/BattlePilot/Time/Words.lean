import BattlePilot.Time.Calendar

/-!
The closed form of a date in words of 64 bits. A sum or product that such a word cannot hold and a
difference below zero give nothing.
-/

namespace BattlePilot

namespace Word

def add? (a b : UInt64) : Option UInt64 :=
  if a.toNat + b.toNat < UInt64.size then some (a + b) else none

def sub? (a b : UInt64) : Option UInt64 :=
  if b.toNat ≤ a.toNat then some (a - b) else none

def mul? (a b : UInt64) : Option UInt64 :=
  if a.toNat * b.toNat < UInt64.size then some (a * b) else none

end Word

namespace Date
open Word

def yearOfEraWord? (dayOfEra : UInt64) : Option UInt64 := do
  let days ← sub? dayOfEra (dayOfEra / 1460)
  let days ← add? days (dayOfEra / 36524)
  let days ← sub? days (dayOfEra / 146096)
  return days / 365

def dayOfYearWord? (dayOfEra year : UInt64) : Option UInt64 := do
  let days ← mul? 365 year
  let days ← add? days (year / 4)
  let days ← sub? days (year / 100)
  sub? dayOfEra days

def monthIndexWord? (dayOfYear : UInt64) : Option UInt64 := do
  let days ← mul? 5 dayOfYear
  let days ← add? days 2
  return days / 153

def dayOfMonthWord? (dayOfYear index : UInt64) : Option UInt64 := do
  let days ← mul? 153 index
  let days ← add? days 2
  let day ← sub? dayOfYear (days / 5)
  add? day 1

def monthWord? (index : UInt64) : Option UInt64 :=
  if index < 10 then add? index 3 else sub? index 9

def yearWord? (era yearOfEra month : UInt64) : Option UInt64 := do
  let year ← mul? era 400
  let year ← add? year yearOfEra
  add? year (if month ≤ 2 then 1 else 0)

/-- The date `days` days after 1 January 1970, if every operation on the way has a result. -/
def ofWord? (days : UInt64) : Option Date := do
  let shifted ← add? days 719468
  let dayOfEra := shifted % 146097
  let yearOfEra ← yearOfEraWord? dayOfEra
  let dayOfYear ← dayOfYearWord? dayOfEra yearOfEra
  let index ← monthIndexWord? dayOfYear
  let day ← dayOfMonthWord? dayOfYear index
  let month ← monthWord? index
  let year ← yearWord? (shifted / 146097) yearOfEra month
  return ⟨year.toNat, month.toNat, day.toNat⟩

end Date
end BattlePilot
