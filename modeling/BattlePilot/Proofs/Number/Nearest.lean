import BattlePilot.Number.Binary64

/-! Magnitudes that 53 binary digits hold. They are the ones that rounding leaves as they are, and
every rounded magnitude is one of them; so are wholes, as long as they are small enough. -/

namespace BattlePilot.Binary64

theorem two_pow_pos (k : Nat) : 0 < Nat.pow 2 k := Nat.pow_pos Nat.two_pos

theorem two_pow_add (m n : Nat) : Nat.pow 2 (m + n) = Nat.pow 2 m * Nat.pow 2 n := Nat.pow_add ..

theorem pos_one : 0 < one := by
  unfold one
  generalize 1074 = k
  exact two_pow_pos k

theorem log2_mono {m n : Nat} (h : m ≤ n) : m.log2 ≤ n.log2 := by
  rcases Nat.eq_zero_or_pos m with rfl | hm
  · exact Nat.log2_zero ▸ Nat.zero_le _
  · exact (Nat.le_log2 (Nat.ne_of_gt (Nat.lt_of_lt_of_le hm h))).2
      (Nat.le_trans (Nat.log2_self_le (Nat.ne_of_gt hm)) h)

theorem log2_lt_of_lt {n k : Nat} (hk : 0 < k) (h : n < Nat.pow 2 k) : n.log2 < k := by
  by_cases hn : n = 0
  · rw [hn, Nat.log2_zero]
    exact hk
  · exact (Nat.log2_lt hn).2 h

/-- Magnitudes of 53 binary digits and `k` zeros are that far apart at most. -/
theorem spacing_dvd {units k : Nat} (h : units.log2 < 53 + k) : spacing units ∣ Nat.pow 2 k :=
  Nat.pow_dvd_pow 2 (by omega)

/-- Whether 53 binary digits hold a magnitude. -/
def Fits (units : Nat) : Prop := spacing units ∣ units

/-- What fits is not rounded. -/
theorem Fits.nearestUnits_eq {units den : Nat} (h : Fits units) (hden : 0 < den) :
    nearestUnits (units * den) den = units := by
  obtain ⟨steps, hsteps⟩ := h
  have hscaled : units * den = steps * (den * spacing units) := by
    rw [Nat.mul_comm den, ← Nat.mul_assoc, Nat.mul_comm steps, ← hsteps]
  have hstep : 0 < den * spacing units := Nat.mul_pos hden (two_pow_pos _)
  rw [nearestUnits, Nat.mul_div_cancel _ hden, hscaled, roundQuotient_mul _ hstep, Nat.mul_comm,
    ← hsteps]

theorem log2_mul_lt {n : Nat} (hn : n ≠ 0) (h : n < Nat.pow 2 digits) (k : Nat) :
    (n * Nat.pow 2 k).log2 < digits + k := by
  rw [Nat.log2_lt (Nat.mul_ne_zero hn (Nat.ne_of_gt (two_pow_pos k))), Nat.pow_add]
  exact Nat.mul_lt_mul_of_pos_right h (two_pow_pos k)

/-- At most 53 binary digits, and zeros after them. -/
theorem fits_mul {n : Nat} (h : n ≤ Nat.pow 2 53) (k : Nat) : Fits (n * Nat.pow 2 k) := by
  rcases Nat.lt_or_eq_of_le h with hlt | rfl
  · refine Nat.dvd_trans (Nat.pow_dvd_pow 2 ?_) (Nat.dvd_mul_left _ n)
    by_cases hn : n = 0
    · subst hn
      rw [Nat.zero_mul, Nat.log2_zero]
      omega
    · have := log2_mul_lt hn hlt k
      omega
  · have hpow : Nat.pow 2 53 * Nat.pow 2 k = Nat.pow 2 (53 + k) := (Nat.pow_add ..).symm
    have hlog : (Nat.pow 2 (53 + k)).log2 = 53 + k := Nat.log2_two_pow
    rw [Fits, spacing, hpow, hlog]
    exact Nat.pow_dvd_pow 2 (by omega)

/-- Wholes below this fit. -/
def wholeLimit : Nat := Nat.pow 2 53

theorem fits_whole {n : Nat} (h : n < wholeLimit) : Fits (n * one) := by
  unfold one
  generalize 1074 = k
  exact fits_mul (Nat.le_of_lt h) k

theorem whole_lt_overflow {n : Nat} (h : n < wholeLimit) : n * one < overflow := by
  have hk : 53 ≤ 1024 := by decide
  unfold overflow
  generalize 1024 = k at hk ⊢
  exact Nat.mul_lt_mul_of_pos_right
    (Nat.lt_of_lt_of_le h (Nat.pow_le_pow_right Nat.two_pos hk)) pos_one

theorem nearestUnits_whole {n : Nat} (h : n < wholeLimit) : nearestUnits (n * one) 1 = n * one := by
  have := (fits_whole h).nearestUnits_eq Nat.one_pos
  rwa [Nat.mul_one] at this

theorem roundQuotient_le (num den : Nat) : roundQuotient num den ≤ num / den + 1 := by
  dsimp only [roundQuotient]
  split <;> omega

/-- What has been rounded fits. -/
theorem fits_nearestUnits (num den : Nat) : Fits (nearestUnits num den) := by
  refine fits_mul (Nat.le_trans (roundQuotient_le _ _) ?_) _
  have hq : num / den < Nat.pow 2 53 * Nat.pow 2 ((num / den).log2 + 1 - 53) :=
    Nat.lt_of_lt_of_le Nat.lt_log2_self
      (Nat.le_trans (Nat.pow_le_pow_right Nat.two_pos (by omega)) (Nat.le_of_eq (Nat.pow_add ..)))
  rw [← Nat.div_div_eq_div_mul]
  exact Nat.succ_le_of_lt ((Nat.div_lt_iff_lt_mul (two_pow_pos _)).2 hq)

/-- What fits below a power of two is at least its last digit away from it. -/
theorem Fits.add_le {units k : Nat} (h : Fits units) (hlt : units < Nat.pow 2 (53 + k)) :
    units + Nat.pow 2 k ≤ Nat.pow 2 (53 + k) := by
  have hsplit : Nat.pow 2 (53 + k) = Nat.pow 2 (52 + k) * 2 := by
    rw [show 53 + k = 52 + k + 1 by omega]
    rfl
  have hle : Nat.pow 2 k ≤ Nat.pow 2 (52 + k) := Nat.pow_le_pow_right Nat.two_pos (by omega)
  by_cases hhalf : units < Nat.pow 2 (52 + k)
  · omega
  · -- the last digit of what lies in the upper half is worth that much
    have hne : units ≠ 0 := fun hzero => hhalf (hzero ▸ two_pow_pos _)
    have hlog : 52 + k ≤ units.log2 := (Nat.le_log2 hne).2 (Nat.le_of_not_lt hhalf)
    have hdvd : Nat.pow 2 k ∣ units :=
      Nat.dvd_trans (Nat.pow_dvd_pow 2 (by omega : k ≤ units.log2 + 1 - 53)) h
    have hdvd' : Nat.pow 2 k ∣ Nat.pow 2 (53 + k) - units :=
      Nat.dvd_sub (Nat.pow_dvd_pow 2 (Nat.le_add_left k 53)) hdvd
    have := Nat.le_of_dvd (by omega) hdvd'
    omega

/-- What fits below `2 ^ n` ones is at least its last digit away from them. -/
theorem Fits.add_part_le {units n : Nat} (h : Fits units) (hlt : units < Nat.pow 2 n * one) :
    wholeLimit * units + Nat.pow 2 n * one ≤ wholeLimit * (Nat.pow 2 n * one) := by
  unfold one wholeLimit at *
  obtain ⟨k, hk⟩ : ∃ k, 1074 = 53 + k := ⟨1021, rfl⟩
  generalize 1074 = places at *
  subst hk
  rw [← two_pow_add, Nat.add_left_comm] at hlt ⊢
  have hroom := Nat.mul_le_mul_left (Nat.pow 2 53) (h.add_le hlt)
  rwa [Nat.mul_add, ← two_pow_add 53 (n + k)] at hroom

end BattlePilot.Binary64
