import BattlePilot.Log.Name
import BattlePilot.Proofs.Number.FixedWidth
import BattlePilot.Proofs.Time.Calendar

/-! The stamps of log files are in the order of time. Up to the year 9999 every part of a stamp has
its own width, and the first part that differs decides; a later year only makes a stamp longer, and
its end, which keeps its width, still tells the months, the days and the clock apart. -/

namespace BattlePilot.Log
open Numeral

/-- The year of a stamp; it may take more than four digits. -/
def yearChars (d : Date) : List Char := padded 4 d.year

/-- The month and the day of a stamp. -/
def monthDayChars (d : Date) : List Char := padded 2 d.month ++ padded 2 d.day

def dateChars (d : Date) : List Char := yearChars d ++ monthDayChars d

/-- The time of day of a stamp. -/
def clockChars (clock : Nat) : List Char :=
  padded 2 (clock / 3600) ++ (padded 2 (clock % 3600 / 60) ++ padded 2 (clock % 60))

theorem stampChars_eq (secs : Nat) :
    stampChars secs = dateChars (Date.ofDays (secs / secondsPerDay)) ++
      '_' :: clockChars (secs % secondsPerDay) := by
  simp only [stampChars, dateChars, yearChars, monthDayChars, clockChars, List.append_assoc,
    List.cons_append]

/-! ### Widths -/

theorem length_digits_le {n width : Nat} (h : n < Nat.pow 10 width) (hpos : 0 < width) :
    (digits n).length ≤ width :=
  (Nat.length_toDigits_le_iff (by decide) hpos).2 h

theorem length_digits_year {d : Date} (h : d.year < 10000) : (digits d.year).length ≤ 4 :=
  length_digits_le h (by decide)

theorem length_digits_two {n : Nat} (h : n < 100) : (digits n).length ≤ 2 :=
  length_digits_le h (by decide)

theorem length_padded_two {n : Nat} (h : n < 100) : (padded 2 n).length = 2 :=
  length_padded (length_digits_two h)

/-- Months and days have two digits. -/
theorem month_day_lt {d : Date} (h : d.isValid = true) : d.month < 100 ∧ d.day < 100 := by
  simp only [Date.isValid, Bool.and_eq_true, decide_eq_true_eq] at h
  have hdays : Date.daysInMonth d.year d.month ≤ 31 := by
    unfold Date.daysInMonth
    split_ifs <;> decide
  omega

theorem mod_secondsPerDay_lt (secs : Nat) : secs % secondsPerDay < secondsPerDay :=
  Nat.mod_lt secs (by decide)

/-- Hours, minutes and seconds have two digits. -/
theorem clock_lt {clock : Nat} (h : clock < secondsPerDay) :
    clock / 3600 < 100 ∧ clock % 3600 / 60 < 100 ∧ clock % 60 < 100 := by
  unfold secondsPerDay at h
  omega

theorem length_monthDayChars {d : Date} (h : d.isValid = true) : (monthDayChars d).length = 4 := by
  obtain ⟨hmonth, hday⟩ := month_day_lt h
  rw [monthDayChars, List.length_append, length_padded_two hmonth, length_padded_two hday]

theorem length_clockChars {clock : Nat} (h : clock < secondsPerDay) :
    (clockChars clock).length = 6 := by
  obtain ⟨hhour, hminute, hsecond⟩ := clock_lt h
  rw [clockChars, List.length_append, List.length_append, length_padded_two hhour,
    length_padded_two hminute, length_padded_two hsecond]

theorem length_dateChars {d : Date} (h : d.isValid = true) (hyear : d.year < 10000) :
    (dateChars d).length = 8 := by
  rw [dateChars, List.length_append, yearChars, length_padded (length_digits_year hyear),
    length_monthDayChars h]

theorem length_stampChars {secs : Nat}
    (hyear : (Date.ofDays (secs / secondsPerDay)).year < 10000) : (stampChars secs).length = 15 := by
  have hclock := mod_secondsPerDay_lt secs
  rw [stampChars_eq, List.length_append, List.length_cons, length_clockChars hclock,
    length_dateChars (Date.ofDays_isValid _) hyear]

/-! ### Order -/

theorem dateChars_lt {d d' : Date} (hd : d.isValid = true) (hd' : d'.isValid = true)
    (hyear : d.year < 10000) (hyear' : d'.year < 10000) (h : d.Before d') :
    Text.utf8 (dateChars d) < Text.utf8 (dateChars d') := by
  obtain ⟨hmonth, hday⟩ := month_day_lt hd
  obtain ⟨hmonth', hday'⟩ := month_day_lt hd'
  simp only [dateChars, yearChars, monthDayChars]
  rcases h with h | ⟨heq, h | ⟨heq', h⟩⟩
  · exact padded_append_lt h (length_digits_year hyear) (length_digits_year hyear') _ _
  · rw [heq]
    exact Text.utf8_append_left_lt _
      (padded_append_lt h (length_digits_two hmonth) (length_digits_two hmonth') _ _)
  · rw [heq, heq']
    exact Text.utf8_append_left_lt _ (Text.utf8_append_left_lt _
      (padded_lt h (length_digits_two hday) (length_digits_two hday')))

/-- The hours, minutes and seconds of two times of day, the first that differ. -/
theorem clock_cases {m n : Nat} (h : m < n) :
    m / 3600 < n / 3600 ∨ m / 3600 = n / 3600 ∧
      (m % 3600 / 60 < n % 3600 / 60 ∨ m % 3600 / 60 = n % 3600 / 60 ∧ m % 60 < n % 60) := by
  omega

theorem clockChars_lt {m n : Nat} (hm : m < secondsPerDay) (hn : n < secondsPerDay) (h : m < n) :
    Text.utf8 (clockChars m) < Text.utf8 (clockChars n) := by
  obtain ⟨hhour, hminute, hsecond⟩ := clock_lt hm
  obtain ⟨hhour', hminute', hsecond'⟩ := clock_lt hn
  simp only [clockChars]
  rcases clock_cases h with h | ⟨heq, h | ⟨heq', h⟩⟩
  · exact padded_append_lt h (length_digits_two hhour) (length_digits_two hhour') _ _
  · rw [heq]
    exact Text.utf8_append_left_lt _
      (padded_append_lt h (length_digits_two hminute) (length_digits_two hminute') _ _)
  · rw [heq, heq']
    exact Text.utf8_append_left_lt _ (Text.utf8_append_left_lt _
      (padded_lt h (length_digits_two hsecond) (length_digits_two hsecond')))

theorem isDigit_of_mem_dateChars {d : Date} : ∀ c ∈ dateChars d, isDigit c = true := by
  intro c hc
  simp only [dateChars, yearChars, monthDayChars, List.mem_append] at hc
  rcases hc with hc | hc | hc <;> exact isDigit_of_mem_padded hc

theorem length_utf8_dateChars {d : Date} (h : d.isValid = true) (hyear : d.year < 10000) :
    (Text.utf8 (dateChars d)).length = 8 :=
  (length_utf8 isDigit_of_mem_dateChars).trans (length_dateChars h hyear)

theorem stampChars_lt {secs secs' : Nat} (h : secs < secs')
    (hyear : (Date.ofDays (secs / secondsPerDay)).year < 10000)
    (hyear' : (Date.ofDays (secs' / secondsPerDay)).year < 10000) :
    Text.utf8 (stampChars secs) < Text.utf8 (stampChars secs') := by
  have hclock := mod_secondsPerDay_lt secs
  have hclock' := mod_secondsPerDay_lt secs'
  have hdiv := Nat.div_add_mod secs secondsPerDay
  have hdiv' := Nat.div_add_mod secs' secondsPerDay
  rw [stampChars_eq, stampChars_eq]
  rcases Nat.lt_or_eq_of_le (Nat.div_le_div_right (c := secondsPerDay) h.le) with hdays | hdays
  · -- another day, which the date tells
    have hvalid := Date.ofDays_isValid (secs / secondsPerDay)
    have hvalid' := Date.ofDays_isValid (secs' / secondsPerDay)
    rw [Text.utf8_append, Text.utf8_append]
    refine Text.append_lt_append (dateChars_lt hvalid hvalid' hyear hyear' ?_) ?_ _ _
    · exact Date.ofDays_before hdays
    · rw [length_utf8_dateChars hvalid hyear, length_utf8_dateChars hvalid' hyear']
  · -- the same day, at another time
    rw [hdays] at hdiv ⊢
    refine Text.utf8_append_left_lt _ ?_
    rw [Text.utf8_cons, Text.utf8_cons]
    exact List.append_left_lt (clockChars_lt hclock hclock' (by omega))

/-! ### Unique reading -/

theorem dateChars_inj {d d' : Date} (hd : d.isValid = true) (hd' : d'.isValid = true)
    (h : dateChars d = dateChars d') : d = d' := by
  have hlength := (length_monthDayChars hd).trans (length_monthDayChars hd').symm
  obtain ⟨hyear, hmonthDay⟩ := List.append_inj' h hlength
  obtain ⟨hmonth, hday⟩ := month_day_lt hd
  obtain ⟨hmonth', hday'⟩ := month_day_lt hd'
  obtain ⟨hmonths, hdays⟩ := List.append_inj' hmonthDay
    ((length_padded_two hday).trans (length_padded_two hday').symm)
  cases d
  cases d'
  cases padded_injective 4 hyear
  cases padded_injective 2 hmonths
  cases padded_injective 2 hdays
  rfl

theorem clockChars_inj {m n : Nat} (hm : m < secondsPerDay) (hn : n < secondsPerDay)
    (h : clockChars m = clockChars n) : m = n := by
  obtain ⟨hhour, hminute, hsecond⟩ := clock_lt hm
  obtain ⟨hhour', hminute', hsecond'⟩ := clock_lt hn
  obtain ⟨hhours, hrest⟩ := List.append_inj h
    ((length_padded_two hhour).trans (length_padded_two hhour').symm)
  obtain ⟨hminutes, hseconds⟩ := List.append_inj hrest
    ((length_padded_two hminute).trans (length_padded_two hminute').symm)
  have hhours := padded_injective 2 hhours
  have hminutes := padded_injective 2 hminutes
  have hseconds := padded_injective 2 hseconds
  omega

theorem stampChars_injective : Function.Injective stampChars := by
  intro secs secs' h
  have hclock := mod_secondsPerDay_lt secs
  have hclock' := mod_secondsPerDay_lt secs'
  rw [stampChars_eq, stampChars_eq] at h
  have hwidth : ('_' :: clockChars (secs % secondsPerDay)).length =
      ('_' :: clockChars (secs' % secondsPerDay)).length := by
    rw [List.length_cons, List.length_cons, length_clockChars hclock, length_clockChars hclock']
  obtain ⟨hdate, hrest⟩ := List.append_inj' h hwidth
  have hdays := Date.ofDays_injective
    (dateChars_inj (Date.ofDays_isValid _) (Date.ofDays_isValid _) hdate)
  have hclocks := clockChars_inj hclock hclock' (List.cons.inj hrest).2
  rw [← Nat.div_add_mod secs secondsPerDay, ← Nat.div_add_mod secs' secondsPerDay, hdays, hclocks]

/-- Log files sort by the second of their creation, and no two seconds share a name. -/
theorem stamp_sorted_distinct :
    Function.Injective stamp ∧
      ∀ secs secs', secs < secs' → (Date.ofDays (secs' / secondsPerDay)).year < 10000 →
        Text.bytes (stamp secs) < Text.bytes (stamp secs') ∧
          (stamp secs).length = 15 ∧ (stamp secs').length = 15 := by
  refine ⟨fun secs secs' h => stampChars_injective (String.ofList_injective h), ?_⟩
  intro secs secs' h hyear'
  have hyear : (Date.ofDays (secs / secondsPerDay)).year < 10000 :=
    Nat.lt_of_le_of_lt (Date.year_ofDays_le (Nat.div_le_div_right h.le)) hyear'
  simp only [stamp, Text.bytes_ofList, String.length_ofList]
  exact ⟨stampChars_lt h hyear hyear', length_stampChars hyear, length_stampChars hyear'⟩

/-- The seconds around the start of a leap day. -/
theorem stamp_sorted_distinct_leapDay :
    1709164799 < 1709164800 ∧ Text.bytes (stamp 1709164799) < Text.bytes (stamp 1709164800) :=
  ⟨by decide, (stamp_sorted_distinct.2 1709164799 1709164800 (by decide) (by decide)).1⟩

example : stamp 1709164799 = "20240228_235959" := by decide

end BattlePilot.Log
