import BattlePilot.Proofs.Number.Nearest
import Mathlib.Data.Nat.Dist

/-! How far rounding goes: half the spacing at most. So a magnitude that 53 binary digits hold is
the nearest one to all that is closer to it than that, unless its spacing is finer on one side. -/

namespace BattlePilot

/-- Rounding goes half a unit at most. -/
theorem dist_roundQuotient (num : Nat) {den : Nat} (hden : 0 < den) :
    2 * Nat.dist (roundQuotient num den * den) num ≤ den := by
  have hnum : num = den * (num / den) + num % den := (Nat.div_add_mod num den).symm
  have hrest : num % den < den := Nat.mod_lt num hden
  dsimp only [roundQuotient, Nat.dist]
  generalize num / den = low at *
  generalize num % den = rest at *
  rw [Nat.mul_comm den] at hnum
  split
  · omega
  · rw [Nat.succ_mul low]
    omega

/-- A natural that is less than half a unit away is the nearest one. -/
theorem roundQuotient_of_dist {num den n : Nat} (h : 2 * Nat.dist num (n * den) < den) :
    roundQuotient num den = n := by
  have hden : 0 < den := Nat.zero_lt_of_lt h
  have hround := dist_roundQuotient num hden
  have htriangle := Nat.dist.triangle_inequality (roundQuotient num den * den) num (n * den)
  rw [Nat.dist_mul_right] at htriangle
  have hclose : Nat.dist (roundQuotient num den) n * den < 1 * den := by omega
  exact Nat.eq_of_dist_eq_zero (Nat.lt_one_iff.1 (Nat.lt_of_mul_lt_mul_right hclose))

namespace Binary64

theorem dist_nearestUnits (num : Nat) {den : Nat} (hden : 0 < den) :
    2 * Nat.dist (nearestUnits num den * den) num ≤ den * spacing (num / den) := by
  have hstep : 0 < den * spacing (num / den) := Nat.mul_pos hden (two_pow_pos _)
  have hunits : nearestUnits num den * den =
      roundQuotient num (den * spacing (num / den)) * (den * spacing (num / den)) := by
    rw [nearestUnits, Nat.mul_assoc, Nat.mul_comm den]
  rw [hunits]
  exact dist_roundQuotient num hstep

/-! ### Spacing, against ones -/

theorem spacing_le {units n : Nat} (h : units < Nat.pow 2 n * one) :
    wholeLimit * spacing units ≤ Nat.pow 2 n * one := by
  unfold one wholeLimit at *
  obtain ⟨k, hk⟩ : ∃ k, 1074 = 53 + k := ⟨1021, rfl⟩
  generalize 1074 = places at *
  subst hk
  rw [← two_pow_add, Nat.add_left_comm] at h ⊢
  rw [two_pow_add 53]
  have hlog : units.log2 < 53 + (n + k) := log2_lt_of_lt (by omega) h
  exact Nat.mul_le_mul_left _ (Nat.le_of_dvd (two_pow_pos _) (spacing_dvd hlog))

theorem le_spacing {units n : Nat} (h : Nat.pow 2 n * one ≤ units) :
    2 * Nat.pow 2 n * one ≤ wholeLimit * spacing units := by
  unfold one wholeLimit at *
  generalize 1074 = k at *
  rw [← two_pow_add] at h
  have hne : units ≠ 0 := Nat.ne_of_gt (Nat.lt_of_lt_of_le (two_pow_pos _) h)
  have hlog : n + k ≤ units.log2 := (Nat.le_log2 hne).2 h
  calc 2 * Nat.pow 2 n * Nat.pow 2 k
      = Nat.pow 2 (n + k + 1) := by
        rw [Nat.mul_assoc, ← two_pow_add]
        exact Nat.mul_comm ..
    _ ≤ Nat.pow 2 (53 + (units.log2 + 1 - 53)) := Nat.pow_le_pow_right Nat.two_pos (by omega)
    _ = Nat.pow 2 53 * spacing units := two_pow_add ..

/-- From `wholeLimit` on, magnitudes are two wholes apart at least. -/
theorem two_le_spacing {units : Nat} (h : wholeLimit * one ≤ units) :
    2 * one ≤ spacing units := by
  have hspacing : 2 * wholeLimit * one ≤ wholeLimit * spacing units := by
    rw [wholeLimit] at h ⊢
    exact le_spacing h
  rw [Nat.mul_right_comm, Nat.mul_comm] at hspacing
  exact Nat.le_of_mul_le_mul_left hspacing (two_pow_pos 53)

/-- What fits and is that large is whole. -/
theorem Fits.one_dvd {units : Nat} (h : Fits units) (hle : Nat.pow 2 52 * one ≤ units) :
    one ∣ units := by
  refine Nat.dvd_trans ?_ h
  unfold one spacing at *
  generalize 1074 = k at *
  rw [← two_pow_add] at hle
  have hne : units ≠ 0 := Nat.ne_of_gt (Nat.lt_of_lt_of_le (two_pow_pos _) hle)
  have hlog : 52 + k ≤ units.log2 := (Nat.le_log2 hne).2 hle
  exact Nat.pow_dvd_pow 2 (by omega)

theorem one_dvd_two_pow {units : Nat} (hone : one ≤ units) : one ∣ Nat.pow 2 units.log2 := by
  have hne : units ≠ 0 := Nat.ne_of_gt (Nat.lt_of_lt_of_le pos_one hone)
  unfold one at *
  generalize 1074 = k at *
  exact Nat.pow_dvd_pow 2 ((Nat.le_log2 hne).2 hone)

/-! ### What is close is rounded to the same -/

theorem Fits.nearestUnits_of_log2 {units near : Nat} (h : Fits units)
    (hlog : near.log2 = units.log2) (hnear : 2 * Nat.dist near units < spacing units) :
    nearestUnits near 1 = units := by
  have hspacing : spacing near = spacing units := by rw [spacing, hlog, spacing]
  obtain ⟨steps, hsteps⟩ := h
  have hround : roundQuotient near (spacing units) = steps := by
    apply roundQuotient_of_dist
    rwa [Nat.mul_comm steps, ← hsteps]
  dsimp only [nearestUnits]
  rw [Nat.div_one, Nat.one_mul, hspacing, hround, Nat.mul_comm]
  exact hsteps.symm

/-- Around a magnitude that is no power of two the spacing is the same on both sides. -/
theorem Fits.log2_eq_of_dist {units near : Nat} (h : Fits units)
    (hpower : Nat.pow 2 units.log2 ≠ units) (hnear : Nat.dist near units < spacing units) :
    near.log2 = units.log2 := by
  by_cases hsmall : units.log2 + 1 ≤ 53
  · -- the spacing is one, so that nothing else is that close
    have hone : spacing units = 1 := congrArg (Nat.pow 2) (Nat.sub_eq_zero_of_le hsmall)
    rw [hone, Nat.lt_one_iff] at hnear
    rw [Nat.eq_of_dist_eq_zero hnear]
  · obtain ⟨k, hk⟩ : ∃ k, units.log2 = 52 + k := Nat.exists_eq_add_of_le (by omega)
    have hspacing : spacing units = Nat.pow 2 k := by
      rw [spacing, hk]
      exact congrArg (Nat.pow 2) (by omega)
    have hne : units ≠ 0 := by
      rintro rfl
      exact hsmall (by decide)
    have hlow : Nat.pow 2 (52 + k) ≤ units := hk ▸ Nat.log2_self_le hne
    have hhigh : units + Nat.pow 2 k ≤ Nat.pow 2 (53 + k) := by
      refine h.add_le (Nat.lt_of_lt_of_le Nat.lt_log2_self ?_)
      exact Nat.pow_le_pow_right Nat.two_pos (by omega)
    have hgap : Nat.pow 2 k ≤ units - Nat.pow 2 (52 + k) := by
      refine Nat.le_of_dvd (by rw [hk] at hpower; omega) (Nat.dvd_sub (hspacing ▸ h) ?_)
      exact Nat.pow_dvd_pow 2 (Nat.le_add_left k 52)
    rw [hspacing, Nat.dist] at hnear
    have hnearlow : Nat.pow 2 (52 + k) ≤ near := by omega
    have hnearhigh : near < Nat.pow 2 (53 + k) := by omega
    have hnearne : near ≠ 0 := Nat.ne_of_gt (Nat.lt_of_lt_of_le (two_pow_pos _) hnearlow)
    have hlt := log2_lt_of_lt (by omega) hnearhigh
    have hle := (Nat.le_log2 hnearne).2 hnearlow
    omega

end Binary64
end BattlePilot
