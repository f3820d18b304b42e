import BattlePilot.Log.Name
import BattlePilot.Proofs.Time.Calendar
import BattlePilot.Time.Words

/-! No operation of the closed form of a date leaves the range of words of 64 bits. For the days of
every number of seconds that a word can hold each operation has a result, and the date is the one of
the calendar. -/

namespace BattlePilot

/-! ### Operations with a result -/

namespace Word

variable {a b : UInt64} {m n : Nat}

theorem add?_eq (ha : a.toNat = m) (hb : b.toNat = n) (h : m + n < UInt64.size) :
    ∃ c, add? a b = some c ∧ c.toNat = m + n := by
  subst ha hb
  exact ⟨a + b, if_pos h, by rw [UInt64.toNat_add, Nat.mod_eq_of_lt h]⟩

theorem sub?_eq (ha : a.toNat = m) (hb : b.toNat = n) (h : n ≤ m) :
    ∃ c, sub? a b = some c ∧ c.toNat = m - n := by
  subst ha hb
  exact ⟨a - b, if_pos h, UInt64.toNat_sub_of_le a b (UInt64.le_iff_toNat_le.2 h)⟩

theorem mul?_eq (ha : a.toNat = m) (hb : b.toNat = n) (h : m * n < UInt64.size) :
    ∃ c, mul? a b = some c ∧ c.toNat = m * n := by
  subst ha hb
  exact ⟨a * b, if_pos h, by rw [UInt64.toNat_mul, Nat.mod_eq_of_lt h]⟩

theorem div_eq (ha : a.toNat = m) (hb : b.toNat = n) : (a / b).toNat = m / n := by
  rw [UInt64.toNat_div, ha, hb]

theorem mod_eq (ha : a.toNat = m) (hb : b.toNat = n) : (a % b).toNat = m % n := by
  rw [UInt64.toNat_mod, ha, hb]

end Word

namespace Date
open Word

/-! ### The steps of the closed form -/

variable {n index : Nat}

theorem yearOfEraWord?_eq {dayOfEra : UInt64} (hn : dayOfEra.toNat = n) (h : n < eraDays) :
    ∃ year, yearOfEraWord? dayOfEra = some year ∧ year.toNat = yearOfEra n := by
  unfold eraDays at h
  obtain ⟨a, ha, hna⟩ := sub?_eq hn (div_eq (b := 1460) (n := 1460) hn rfl) (by omega)
  obtain ⟨b, hb, hnb⟩ := add?_eq hna (div_eq (b := 36524) (n := 36524) hn rfl)
    (by unfold UInt64.size; omega)
  obtain ⟨c, hc, hnc⟩ := sub?_eq hnb (div_eq (b := 146096) (n := 146096) hn rfl) (by omega)
  refine ⟨c / 365, ?_, div_eq hnc rfl⟩
  simp only [yearOfEraWord?, ha, hb, hc, Option.bind_eq_bind, Option.bind_some, Option.pure_def]

theorem dayOfYearWord?_eq {dayOfEra year : UInt64} (hn : dayOfEra.toNat = n) (h : n < eraDays)
    (hyear : year.toNat = yearOfEra n) :
    ∃ day, dayOfYearWord? dayOfEra year = some day ∧ day.toNat = dayOfYear n := by
  have hlt := yearOfEra_lt h
  have hbefore := (yearOfEra_fallsOn h).days_eq
  unfold daysBefore at hbefore
  obtain ⟨a, ha, hna⟩ := mul?_eq (a := 365) (m := 365) rfl hyear (by unfold UInt64.size; omega)
  obtain ⟨b, hb, hnb⟩ := add?_eq hna (div_eq (b := 4) (n := 4) hyear rfl)
    (by unfold UInt64.size; omega)
  obtain ⟨c, hc, hnc⟩ := sub?_eq hnb (div_eq (b := 100) (n := 100) hyear rfl) (by omega)
  obtain ⟨d, hd, hnd⟩ := sub?_eq hn hnc (by omega)
  refine ⟨d, ?_, hnd⟩
  simp only [dayOfYearWord?, ha, hb, hc, hd, Option.bind_eq_bind, Option.bind_some]

theorem monthIndexWord?_eq {day : UInt64} (hn : day.toNat = n) (h : n < 366) :
    ∃ index, monthIndexWord? day = some index ∧ index.toNat = monthIndex n := by
  obtain ⟨a, ha, hna⟩ := mul?_eq (a := 5) (m := 5) rfl hn (by unfold UInt64.size; omega)
  obtain ⟨b, hb, hnb⟩ := add?_eq (b := 2) (n := 2) hna rfl (by unfold UInt64.size; omega)
  refine ⟨b / 153, ?_, div_eq hnb rfl⟩
  simp only [monthIndexWord?, ha, hb, Option.bind_eq_bind, Option.bind_some, Option.pure_def]

theorem dayOfMonthWord?_eq {day month : UInt64} (hn : day.toNat = n) (hmonth : month.toNat = index)
    (h : n < 366) (hfirst : daysBeforeMonth index ≤ n) :
    ∃ d, dayOfMonthWord? day month = some d ∧ d.toNat = n - daysBeforeMonth index + 1 := by
  unfold daysBeforeMonth at hfirst
  obtain ⟨a, ha, hna⟩ := mul?_eq (a := 153) (m := 153) rfl hmonth (by unfold UInt64.size; omega)
  obtain ⟨b, hb, hnb⟩ := add?_eq (b := 2) (n := 2) hna rfl (by unfold UInt64.size; omega)
  obtain ⟨c, hc, hnc⟩ := sub?_eq hn (div_eq (b := 5) (n := 5) hnb rfl) (by omega)
  obtain ⟨d, hd, hnd⟩ := add?_eq (b := 1) (n := 1) hnc rfl (by unfold UInt64.size; omega)
  refine ⟨d, ?_, hnd⟩
  simp only [dayOfMonthWord?, ha, hb, hc, hd, Option.bind_eq_bind, Option.bind_some]

theorem monthWord?_eq {month : UInt64} (hmonth : month.toNat = index) (h : index ≤ 11) :
    ∃ m, monthWord? month = some m ∧ m.toNat = monthOfIndex index := by
  have hten : month < 10 ↔ index < 10 := by
    rw [UInt64.lt_iff_toNat_lt, hmonth]
    rfl
  simp only [monthWord?, monthOfIndex, hten]
  split
  · exact add?_eq hmonth rfl (by unfold UInt64.size; omega)
  · exact sub?_eq hmonth rfl (by omega)

theorem yearWord?_eq {era year month : UInt64} (hn : era.toNat = n) (hyear : year.toNat = y)
    (hmonth : month.toNat = m) (h : n * 400 + y + 1 < UInt64.size) :
    ∃ c, yearWord? era year month = some c ∧
      c.toNat = n * 400 + y + if m ≤ 2 then 1 else 0 := by
  have hsum : n * 400 + y < UInt64.size := Nat.lt_of_succ_lt h
  have hmul : n * 400 < UInt64.size := Nat.lt_of_le_of_lt (Nat.le_add_right _ y) hsum
  obtain ⟨a, ha, hna⟩ := mul?_eq (b := 400) (n := 400) hn rfl hmul
  obtain ⟨b, hb, hnb⟩ := add?_eq hna hyear hsum
  have htwo : month ≤ 2 ↔ m ≤ 2 := by
    rw [UInt64.le_iff_toNat_le, hmonth]
    rfl
  have hjanuary : (if month ≤ 2 then 1 else 0 : UInt64).toNat = if m ≤ 2 then 1 else 0 := by
    simp only [htwo]
    split <;> rfl
  have hone : (if m ≤ 2 then 1 else 0) ≤ 1 := by split <;> decide
  obtain ⟨c, hc, hnc⟩ := add?_eq hnb hjanuary (Nat.lt_of_le_of_lt (Nat.add_le_add_left hone _) h)
  refine ⟨c, ?_, hnc⟩
  simp only [yearWord?, ha, hb, hc, Option.bind_eq_bind, Option.bind_some]

/-- Only the first sum may be too great. -/
theorem ofWord?_eq {days : UInt64} (hn : days.toNat = n) (h : n + epochShift < UInt64.size) :
    ofWord? days = some (ofDays n) := by
  obtain ⟨shifted, hshifted, hns⟩ := add?_eq (b := 719468) (n := epochShift) hn rfl h
  have hlt : (n + epochShift) % eraDays < eraDays := Nat.mod_lt _ (by decide)
  have hfalls := yearOfEra_fallsOn hlt
  have hlength := daysFromMarch_cases (yearOfEra ((n + epochShift) % eraDays))
  have hshort : dayOfYear ((n + epochShift) % eraDays) < 366 := by
    have hlast := hfalls.day_lt
    omega
  have hrange : (n + epochShift) / eraDays * 400 + yearOfEra ((n + epochShift) % eraDays) + 1 <
      UInt64.size := by
    have hyear := yearOfEra_lt hlt
    unfold eraDays UInt64.size at *
    omega
  have hmod := mod_eq (b := 146097) (n := eraDays) hns rfl
  have hdiv := div_eq (b := 146097) (n := eraDays) hns rfl
  obtain ⟨year, hyear, hny⟩ := yearOfEraWord?_eq hmod hlt
  obtain ⟨day, hday, hnd⟩ := dayOfYearWord?_eq hmod hlt hny
  obtain ⟨index, hindex, hni⟩ := monthIndexWord?_eq hnd hshort
  obtain ⟨d, hd, hnd'⟩ := dayOfMonthWord?_eq hnd hni hshort (monthIndex_eq_iff.1 rfl).1
  obtain ⟨m, hm, hnm⟩ := monthWord?_eq hni (monthIndex_le hfalls.day_lt)
  obtain ⟨y, hy, hny'⟩ := yearWord?_eq hdiv hny hnm hrange
  simp only [ofWord?, hshifted, hyear, hday, hindex, hd, hm, hy, hnd', hnm, hny',
    Option.bind_eq_bind, Option.bind_some, Option.pure_def]
  rfl

/-! ### The calendar -/

/-- The days of every number of seconds that a word can hold have a date, and no operation of the
closed form leaves the range of words. Dates are dates of the calendar, the first one is 1 January
1970, and each is followed by the next one. -/
theorem ofDays_calendar :
    (∀ secs : UInt64,
      ofWord? (secs / 86400) = some (ofDays (secs.toNat / Log.secondsPerDay))) ∧
    (∀ days, (ofDays days).isValid = true) ∧ ofDays 0 = ⟨1970, 1, 1⟩ ∧
    ∀ days, ofDays (days + 1) = (ofDays days).next := by
  refine ⟨fun secs => ?_, ofDays_isValid, by decide, ofDays_succ⟩
  apply ofWord?_eq (div_eq (b := 86400) (n := Log.secondsPerDay) rfl rfl)
  have hsize := secs.toNat_lt_size
  unfold Log.secondsPerDay epochShift UInt64.size at *
  omega

end Date
end BattlePilot
