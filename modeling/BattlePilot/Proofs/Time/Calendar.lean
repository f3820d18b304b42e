import BattlePilot.Time.Calendar
import Mathlib.Tactic.IntervalCases

/-! The closed form of a date is the calendar. Years that begin in March carry the proof: a leap day
ends its year, so that the days before a year have a formula, and the days before a month have one
that no leap year disturbs. -/

namespace BattlePilot.Date

theorem isLeap_iff (year : Nat) :
    isLeap year = true ↔ 4 ∣ year ∧ (100 ∣ year → 400 ∣ year) := by
  simp only [isLeap, Bool.and_eq_true, Bool.or_eq_true, beq_iff_eq, bne_iff_ne,
    Nat.dvd_iff_mod_eq_zero, imp_iff_not_or]

/-! ### Years from March to March -/

/-- Days from 1 March of year 0 to 1 March of a year. -/
def daysBefore (year : Nat) : Nat := 365 * year + year / 4 - year / 100 + year / 400

/-- Days from 1 March of a year to the next; a leap day in between is one of the next year. -/
def daysFromMarch (year : Nat) : Nat := if isLeap (year + 1) then 366 else 365

theorem daysFromMarch_cases (year : Nat) : daysFromMarch year = 365 ∨ daysFromMarch year = 366 := by
  unfold daysFromMarch
  split
  · exact .inr rfl
  · exact .inl rfl

theorem daysBefore_succ (year : Nat) :
    daysBefore (year + 1) = daysBefore year + daysFromMarch year := by
  have hcentury : 100 ∣ year + 1 → 4 ∣ year + 1 := Nat.dvd_trans (by decide)
  have hera : 400 ∣ year + 1 → 100 ∣ year + 1 := Nat.dvd_trans (by decide)
  have hle : year / 100 ≤ year := Nat.div_le_self year 100
  simp only [daysBefore, daysFromMarch, Nat.succ_div, isLeap_iff]
  split_ifs <;> grind

theorem daysBefore_mono {year year' : Nat} (h : year ≤ year') :
    daysBefore year ≤ daysBefore year' :=
  monotone_nat_of_le_succ
    (fun y => Nat.le.intro (daysBefore_succ y).symm) h

/-- An era later everything comes again. -/
theorem daysBefore_era (era year : Nat) :
    daysBefore (era * 400 + year) = era * eraDays + daysBefore year := by
  unfold daysBefore eraDays
  omega

/-- The day number `days` after 1 March of year 0 is day number `day` of a year from March. -/
structure FallsOn (days year day : Nat) : Prop where
  days_eq : days = daysBefore year + day
  day_lt : day < daysFromMarch year

namespace FallsOn

variable {days year day : Nat}

/-- Every day falls in one year only. -/
theorem year_eq (h : FallsOn days year day) (h' : FallsOn days year' day') : year = year' := by
  have le {y y' d d' : Nat} (h : FallsOn days y d) (h' : FallsOn days y' d') : y ≤ y' := by
    by_contra hlt
    have hmono : daysBefore (y' + 1) ≤ daysBefore y := daysBefore_mono (Nat.lt_of_not_le hlt)
    have hsucc := daysBefore_succ y'
    have hd := h.days_eq
    have hd' := h'.days_eq
    have hlast := h'.day_lt
    omega
  exact Nat.le_antisymm (le h h') (le h' h)

theorem unique (h : FallsOn days year day) (h' : FallsOn days year' day') :
    year = year' ∧ day = day' := by
  obtain rfl := h.year_eq h'
  have hd := h.days_eq
  have hd' := h'.days_eq
  exact ⟨rfl, by omega⟩

theorem tomorrow (h : FallsOn days year day) (hlast : day + 1 < daysFromMarch year) :
    FallsOn (days + 1) year (day + 1) := ⟨congrArg (· + 1) h.days_eq, hlast⟩

theorem newYear (h : FallsOn days year day) (hlast : day + 1 = daysFromMarch year) :
    FallsOn (days + 1) (year + 1) 0 where
  days_eq := by
    rw [h.days_eq, daysBefore_succ, ← hlast]
    rfl
  day_lt := by
    have hcases := daysFromMarch_cases (year + 1)
    omega

end FallsOn

/-! ### The year of a day -/

/-- What is left of an era beyond whole centuries decides alone. -/
theorem yearOfEra_century {century rest : Nat} (hc : century < 4) (hr : rest < 36524) :
    yearOfEra (36524 * century + rest) =
      100 * century + (rest - (24 * century + rest) / 1460) / 365 := by
  have hcentury : (36524 * century + rest) / 36524 = century := by omega
  have hera : (36524 * century + rest) / 146096 = 0 := by omega
  have hfour : (36524 * century + rest) / 1460 =
      25 * century + (24 * century + rest) / 1460 := by omega
  rw [yearOfEra, hcentury, hera, hfour]
  omega

/-- Centuries, then four years each, then years; the last of four has a day more. -/
theorem yearOfEra_cycle {century four rest : Nat} (hc : century < 4) (hf : four < 25)
    (hr : rest < 1461) (hlast : four = 24 → rest < 1460) :
    yearOfEra (36524 * century + (1461 * four + rest)) =
      100 * century + 4 * four + min 3 (rest / 365) := by
  have hfour : (24 * century + (1461 * four + rest)) / 1460 =
      four + (24 * century + four + rest) / 1460 := by omega
  rw [yearOfEra_century hc (by omega), hfour]
  omega

theorem daysBefore_cycle {century four year : Nat} (hc : century < 4) (hf : four < 25)
    (hy : year < 4) : daysBefore (100 * century + 4 * four + year) =
      36524 * century + (1461 * four + 365 * year) := by
  have hfours : (100 * century + 4 * four + year) / 4 = 25 * century + four := by omega
  have hcenturies : (100 * century + 4 * four + year) / 100 = century := by omega
  have heras : (100 * century + 4 * four + year) / 400 = 0 := by omega
  rw [daysBefore, hfours, hcenturies, heras]
  omega

/-- Four years have their leap day, unless they are the last ones of a century. -/
theorem daysFromMarch_cycle {century four : Nat} (hf : four < 24) :
    daysFromMarch (100 * century + 4 * four + 3) = 366 := by
  refine if_pos ((isLeap_iff _).2 ?_)
  omega

theorem yearOfEra_lt {dayOfEra : Nat} (h : dayOfEra < eraDays) : yearOfEra dayOfEra < 400 := by
  unfold eraDays at h
  unfold yearOfEra
  omega

theorem dayOfYear_eq {dayOfEra : Nat} (h : yearOfEra dayOfEra < 400) :
    dayOfYear dayOfEra = dayOfEra - daysBefore (yearOfEra dayOfEra) := by
  rw [dayOfYear, daysBefore, Nat.div_eq_of_lt h, Nat.add_zero]

/-- The closed form finds the year of an era. -/
theorem yearOfEra_fallsOn {dayOfEra : Nat} (h : dayOfEra < eraDays) :
    FallsOn dayOfEra (yearOfEra dayOfEra) (dayOfYear dayOfEra) := by
  rcases Nat.lt_or_eq_of_le (Nat.le_of_lt_succ h) with hlt | rfl
  · -- the parts of the day number: whole centuries, whole four years, and the rest
    obtain ⟨century, beyond, rfl, hbeyond⟩ : ∃ c b, dayOfEra = 36524 * c + b ∧ b < 36524 :=
      ⟨dayOfEra / 36524, dayOfEra % 36524, by omega, by omega⟩
    obtain ⟨four, rest, rfl, hrest⟩ : ∃ f r, beyond = 1461 * f + r ∧ r < 1461 :=
      ⟨beyond / 1461, beyond % 1461, by omega, by omega⟩
    have hc : century < 4 := by omega
    have hf : four < 25 := by omega
    have hyear := yearOfEra_cycle hc hf hrest (by omega)
    have hyears : min 3 (rest / 365) < 4 := by omega
    have hbefore := daysBefore_cycle hc hf hyears
    rw [dayOfYear_eq (yearOfEra_lt h), hyear, hbefore]
    refine ⟨by omega, ?_⟩
    have hlength := daysFromMarch_cases (100 * century + 4 * four + min 3 (rest / 365))
    rcases Nat.lt_or_eq_of_le (Nat.le_of_lt_succ hrest) with hrest | rfl
    · omega
    · -- the leap day of four years
      have hleap : daysFromMarch (100 * century + 4 * four + min 3 (1460 / 365)) = 366 :=
        daysFromMarch_cycle (by omega)
      omega
  · -- the leap day of the era
    exact ⟨rfl, by decide⟩

/-- The year from March in which a day falls, by the closed form. -/
def marchYear (days : Nat) : Nat := days / eraDays * 400 + yearOfEra (days % eraDays)

theorem marchYear_fallsOn (days : Nat) :
    FallsOn days (marchYear days) (dayOfYear (days % eraDays)) := by
  have hday := yearOfEra_fallsOn (Nat.mod_lt days (by decide))
  have hleap : isLeap (marchYear days + 1) = isLeap (yearOfEra (days % eraDays) + 1) := by
    rw [Bool.eq_iff_iff, isLeap_iff, isLeap_iff, marchYear]
    omega
  refine ⟨?_, ?_⟩
  · rw [marchYear, daysBefore_era, Nat.add_assoc, ← hday.days_eq]
    exact (Nat.div_add_mod' days eraDays).symm
  · rw [daysFromMarch, hleap]
    exact hday.day_lt

/-! ### Months from March -/

/-- The number of a month that is given by the months since March. -/
def monthOfIndex (index : Nat) : Nat := if index < 10 then index + 3 else index - 9

/-- Days from 1 March to the first day of a month. -/
def daysBeforeMonth (index : Nat) : Nat := (153 * index + 2) / 5

/-- The date of a day of a year from March. -/
def ofMarch (year day : Nat) : Date where
  year := year + if monthOfIndex (monthIndex day) ≤ 2 then 1 else 0
  month := monthOfIndex (monthIndex day)
  day := day - daysBeforeMonth (monthIndex day) + 1

theorem ofDays_eq_ofMarch (days : Nat) :
    ofDays days =
      ofMarch (marchYear (days + epochShift)) (dayOfYear ((days + epochShift) % eraDays)) := rfl

theorem monthIndex_eq_iff {day index : Nat} :
    monthIndex day = index ↔ daysBeforeMonth index ≤ day ∧ day < daysBeforeMonth (index + 1) := by
  unfold monthIndex daysBeforeMonth
  omega

/-- The day of a year from March on which a month is over; for February that is its last day. -/
def monthEnd (year index : Nat) : Nat := min (daysBeforeMonth (index + 1)) (daysFromMarch year)

theorem daysInMonth_monthOfIndex {index : Nat} (h : index ≤ 11) (year : Nat) :
    daysInMonth (year + if monthOfIndex index ≤ 2 then 1 else 0) (monthOfIndex index) =
      monthEnd year index - daysBeforeMonth index := by
  have hlength := daysFromMarch_cases year
  rcases Nat.lt_or_eq_of_le h with hlt | rfl
  · have hend : monthEnd year index = daysBeforeMonth (index + 1) := by
      unfold monthEnd daysBeforeMonth
      omega
    rw [hend]
    interval_cases index <;> rfl
  · have hend : monthEnd year 11 = daysFromMarch year := by
      unfold monthEnd daysBeforeMonth
      omega
    rw [hend]
    change (if isLeap (year + 1) then 29 else 28) = _
    unfold daysFromMarch
    split <;> rfl

variable {year day index : Nat}

theorem ofMarch_eq (h : monthIndex day = index) :
    ofMarch year day = ⟨year + if monthOfIndex index ≤ 2 then 1 else 0, monthOfIndex index,
      day - daysBeforeMonth index + 1⟩ := by
  rw [ofMarch, h]

theorem monthIndex_le (h : day < daysFromMarch year) : monthIndex day ≤ 11 := by
  have hlength := daysFromMarch_cases year
  unfold monthIndex
  omega

theorem lt_monthEnd (h : day < daysFromMarch year) (hindex : monthIndex day = index) :
    daysBeforeMonth index ≤ day ∧ day < monthEnd year index := by
  obtain ⟨hle, hlt⟩ := monthIndex_eq_iff.1 hindex
  exact ⟨hle, Nat.lt_min.2 ⟨hlt, h⟩⟩

theorem monthOfIndex_range (h : index ≤ 11) : 1 ≤ monthOfIndex index ∧ monthOfIndex index ≤ 12 := by
  unfold monthOfIndex
  split <;> omega

theorem ofMarch_isValid (h : day < daysFromMarch year) : (ofMarch year day).isValid = true := by
  obtain ⟨index, hindex⟩ : ∃ index, monthIndex day = index := ⟨_, rfl⟩
  have hle := hindex ▸ monthIndex_le h
  obtain ⟨hfirst, hlast⟩ := lt_monthEnd h hindex
  obtain ⟨hone, htwelve⟩ := monthOfIndex_range hle
  rw [ofMarch_eq hindex]
  simp only [isValid, Bool.and_eq_true, decide_eq_true_eq, daysInMonth_monthOfIndex hle]
  omega

theorem next_of_lt {month : Nat} (h : day < daysInMonth year month) :
    next ⟨year, month, day⟩ = ⟨year, month, day + 1⟩ := if_pos h

theorem next_of_last {month : Nat} (h : daysInMonth year month ≤ day) :
    next ⟨year, month, day⟩ = if month < 12 then ⟨year, month + 1, 1⟩ else ⟨year + 1, 1, 1⟩ :=
  if_neg (Nat.not_lt.2 h)

/-- Months follow each other by their index, and January begins a year. -/
theorem firstOfMonth_succ (h : index < 11) (year : Nat) :
    (if monthOfIndex index < 12
      then ⟨year + if monthOfIndex index ≤ 2 then 1 else 0, monthOfIndex index + 1, 1⟩
      else ⟨(year + if monthOfIndex index ≤ 2 then 1 else 0) + 1, 1, 1⟩ : Date) =
      ⟨year + if monthOfIndex (index + 1) ≤ 2 then 1 else 0, monthOfIndex (index + 1), 1⟩ := by
  interval_cases index <;> rfl

/-- The day after, in the month or on the first day of the next one. -/
theorem ofMarch_tomorrow (h : day + 1 < daysFromMarch year) :
    ofMarch year (day + 1) = (ofMarch year day).next := by
  obtain ⟨index, hindex⟩ : ∃ index, monthIndex day = index := ⟨_, rfl⟩
  have hle := hindex ▸ monthIndex_le (Nat.lt_of_succ_lt h)
  obtain ⟨hfirst, hlast⟩ := lt_monthEnd (Nat.lt_of_succ_lt h) hindex
  have hlength := daysInMonth_monthOfIndex hle year
  rw [ofMarch_eq hindex]
  rcases Nat.lt_or_eq_of_le hlast with hlater | hover
  · -- the month goes on
    have hsame : monthIndex (day + 1) = index :=
      monthIndex_eq_iff.2 ⟨Nat.le_succ_of_le hfirst, (Nat.lt_min.1 hlater).1⟩
    rw [ofMarch_eq hsame, next_of_lt (by omega), Nat.sub_add_comm hfirst]
  · -- the month is over, and it is not February
    have hnext : day + 1 = daysBeforeMonth (index + 1) := by
      unfold monthEnd at hover
      omega
    have hindex' : monthIndex (day + 1) = index + 1 := by
      rw [hnext, monthIndex_eq_iff]
      unfold daysBeforeMonth
      omega
    have hlt := hindex' ▸ monthIndex_le h
    rw [ofMarch_eq hindex', next_of_last (by omega), firstOfMonth_succ hlt, hnext, Nat.sub_self]

/-- The day after the last day of February. -/
theorem ofMarch_newYear (h : day + 1 = daysFromMarch year) :
    ofMarch (year + 1) 0 = (ofMarch year day).next := by
  have hcases := daysFromMarch_cases year
  have hindex : monthIndex day = 11 := by
    rw [monthIndex_eq_iff]
    unfold daysBeforeMonth
    omega
  have hend : monthEnd year 11 = day + 1 := by
    unfold monthEnd daysBeforeMonth
    omega
  have hlength := daysInMonth_monthOfIndex (Nat.le_refl 11) year
  rw [ofMarch_eq hindex, next_of_last (by omega)]
  rfl

/-! ### Days in a row -/

theorem ofDays_isValid (days : Nat) : (ofDays days).isValid = true :=
  ofMarch_isValid (marchYear_fallsOn (days + epochShift)).day_lt

theorem ofDays_succ (days : Nat) : ofDays (days + 1) = (ofDays days).next := by
  have hday := marchYear_fallsOn (days + epochShift)
  have hday' := marchYear_fallsOn (days + 1 + epochShift)
  rw [ofDays_eq_ofMarch, ofDays_eq_ofMarch]
  rw [Nat.add_right_comm] at hday' ⊢
  rcases Nat.lt_or_eq_of_le hday.day_lt with hlt | hlast
  · obtain ⟨hyear, hnext⟩ := hday'.unique (hday.tomorrow hlt)
    rw [hyear, hnext, ofMarch_tomorrow hlt]
  · obtain ⟨hyear, hnext⟩ := hday'.unique (hday.newYear hlast)
    rw [hyear, hnext, ofMarch_newYear hlast]

/-! ### Order -/

/-- A date lies before another. -/
def Before (d d' : Date) : Prop :=
  d.year < d'.year ∨ d.year = d'.year ∧ (d.month < d'.month ∨ d.month = d'.month ∧ d.day < d'.day)

theorem Before.trans {d d' d'' : Date} (h : d.Before d') (h' : d'.Before d'') : d.Before d'' := by
  unfold Before at *
  omega

theorem Before.irrefl (d : Date) : ¬ d.Before d := by
  unfold Before
  omega

theorem before_next (d : Date) : d.Before d.next := by
  unfold next
  split
  · exact .inr ⟨rfl, .inr ⟨rfl, Nat.lt_succ_self d.day⟩⟩
  · split
    · exact .inr ⟨rfl, .inl (Nat.lt_succ_self d.month)⟩
    · exact .inl (Nat.lt_succ_self d.year)

theorem ofDays_before_succ (days : Nat) : (ofDays days).Before (ofDays (days + 1)) := by
  rw [ofDays_succ]
  exact before_next _

theorem ofDays_before {m n : Nat} (h : m < n) : (ofDays m).Before (ofDays n) := by
  induction h with
  | refl => exact ofDays_before_succ m
  | step _ ih => exact ih.trans (ofDays_before_succ _)

theorem year_ofDays_le {m n : Nat} (h : m ≤ n) : (ofDays m).year ≤ (ofDays n).year := by
  rcases Nat.lt_or_eq_of_le h with hlt | rfl
  · rcases ofDays_before hlt with hyear | ⟨hyear, -⟩
    · exact hyear.le
    · exact hyear.le
  · exact Nat.le_refl _

theorem ofDays_injective : Function.Injective ofDays := by
  have le {m n : Nat} (h : ofDays m = ofDays n) : m ≤ n := by
    by_contra hlt
    have hbefore := ofDays_before (Nat.lt_of_not_le hlt)
    rw [h] at hbefore
    exact Before.irrefl _ hbefore
  exact fun m n h => Nat.le_antisymm (le h) (le h.symm)

end BattlePilot.Date
