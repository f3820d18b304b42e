import BattlePilot.Proofs.Number.Distance
import BattlePilot.Time.Span

/-! Rounding keeps the order of magnitudes, also where the spacing changes. So the seconds that a
clock shows never go back as floating-point numbers: below 2⁵³ the next whole second is exact, and
beyond it a fraction of a second is lost in the rounding. -/

namespace BattlePilot

theorem roundQuotient_mono {num num' : Nat} (den : Nat) (h : num ≤ num') :
    roundQuotient num den ≤ roundQuotient num' den := by
  have hnum : num = den * (num / den) + num % den := (Nat.div_add_mod num den).symm
  have hnum' : num' = den * (num' / den) + num' % den := (Nat.div_add_mod num' den).symm
  have hlow : num / den ≤ num' / den := Nat.div_le_div_right h
  dsimp only [roundQuotient]
  generalize num / den = low at *
  generalize num' / den = low' at *
  rcases Nat.lt_or_eq_of_le hlow with hlt | rfl
  · split <;> split <;> omega
  · split <;> split <;> omega

namespace Binary64

section
variable {num num' den bound : Nat} (hden : 0 < den) (hdvd : spacing (num / den) ∣ bound)

include hden hdvd

theorem roundQuotient_bound :
    roundQuotient (bound * den) (den * spacing (num / den)) * spacing (num / den) = bound := by
  obtain ⟨steps, rfl⟩ := hdvd
  have hscaled : spacing (num / den) * steps * den = steps * (den * spacing (num / den)) := by
    rw [Nat.mul_comm den, ← Nat.mul_assoc, Nat.mul_comm steps]
  have hstep : 0 < den * spacing (num / den) := Nat.mul_pos hden (two_pow_pos _)
  rw [hscaled, roundQuotient_mul _ hstep, Nat.mul_comm]

/-- What is not above a multiple of the spacing is not rounded beyond it. -/
theorem nearestUnits_le (h : num ≤ bound * den) : nearestUnits num den ≤ bound :=
  Nat.le_trans (Nat.mul_le_mul_right _ (roundQuotient_mono _ h))
    (Nat.le_of_eq (roundQuotient_bound hden hdvd))

theorem le_nearestUnits (h : bound * den ≤ num) : bound ≤ nearestUnits num den :=
  Nat.le_trans (Nat.le_of_eq (roundQuotient_bound hden hdvd).symm)
    (Nat.mul_le_mul_right _ (roundQuotient_mono _ h))

end

theorem nearestUnits_mono {num num' den : Nat} (hden : 0 < den) (h : num ≤ num') :
    nearestUnits num den ≤ nearestUnits num' den := by
  have hlog : (num / den).log2 ≤ (num' / den).log2 := log2_mono (Nat.div_le_div_right h)
  rcases Nat.lt_or_eq_of_le hlog with hlt | heq
  · -- a power of two lies between them, and neither is rounded past it
    generalize hk : (num' / den).log2 = k at hlt
    have hne : num' / den ≠ 0 := by
      intro hzero
      rw [hzero, Nat.log2_zero] at hk
      omega
    have hbelow : num / den < Nat.pow 2 k :=
      Nat.lt_of_lt_of_le Nat.lt_log2_self (Nat.pow_le_pow_right Nat.two_pos hlt)
    have habove : Nat.pow 2 k ≤ num' / den := hk ▸ Nat.log2_self_le hne
    calc nearestUnits num den
        ≤ Nat.pow 2 k := nearestUnits_le hden (spacing_dvd (by omega))
          (Nat.le_of_lt ((Nat.div_lt_iff_lt_mul hden).1 hbelow))
      _ ≤ nearestUnits num' den := le_nearestUnits hden (spacing_dvd (by omega))
          ((Nat.le_div_iff_mul_le hden).1 habove)
  · dsimp only [nearestUnits, spacing]
    rw [heq]
    exact Nat.mul_le_mul_right _ (roundQuotient_mono _ h)

/-- What is less than half the spacing is lost when it is added. -/
theorem Fits.nearestUnits_add {units rest : Nat} (h : Fits units)
    (hrest : 2 * rest < spacing units) : nearestUnits (units + rest) 1 = units := by
  have hlog : (units + rest).log2 = units.log2 := by
    refine Nat.le_antisymm ?_ (log2_mono (Nat.le_add_right ..))
    by_cases hsmall : units.log2 + 1 ≤ 53
    · -- the spacing is one, so that nothing is added
      have hone : spacing units = 1 := congrArg (Nat.pow 2) (Nat.sub_eq_zero_of_le hsmall)
      have hzero : rest = 0 := by omega
      subst hzero
      exact Nat.le_refl _
    · have hexp : 53 + (units.log2 + 1 - 53) = units.log2 + 1 := by omega
      have hroom : units + spacing units ≤ Nat.pow 2 (53 + (units.log2 + 1 - 53)) :=
        h.add_le (hexp.symm ▸ Nat.lt_log2_self)
      rw [hexp] at hroom
      have hlt : units + rest < Nat.pow 2 (units.log2 + 1) := by omega
      exact Nat.le_of_lt_succ (log2_lt_of_lt (Nat.succ_pos _) hlt)
  refine h.nearestUnits_of_log2 hlog ?_
  rwa [Nat.dist_comm, Nat.dist_eq_sub_of_le (Nat.le_add_right ..), Nat.add_sub_cancel_left]

theorem nearestUnits_wholeLimit : nearestUnits (wholeLimit * one) 1 = wholeLimit * one := by
  have hfits : Fits (wholeLimit * one) := by
    unfold one
    generalize 1074 = k
    exact fits_mul (Nat.le_refl _) k
  have := hfits.nearestUnits_eq Nat.one_pos
  rwa [Nat.mul_one] at this

/-- A proper fraction is at least one part of `parts` below one, if it has no more parts. -/
theorem mul_le_pred_mul {num den parts : Nat} (h : num < den) (hden : den ≤ parts) :
    num * parts ≤ (parts - 1) * den := by
  have hroom : num * parts + parts ≤ den * parts := by
    rw [← Nat.succ_mul]
    exact Nat.mul_le_mul_right _ h
  rw [Nat.mul_comm _ den, Nat.mul_sub, Nat.mul_one]
  omega

/-- A proper fraction of which the denominator is not too large is not rounded up to one. -/
theorem nearestUnits_lt_one {num den : Nat} (h : num < den) (hden : den ≤ wholeLimit) :
    nearestUnits (num * one) den < one := by
  have hpos : 0 < den := Nat.zero_lt_of_lt h
  unfold one wholeLimit at *
  obtain ⟨k, hk⟩ : ∃ k, 1074 = 53 + k := ⟨1021, rfl⟩
  rw [hk, two_pow_add]
  have hlog : (num * (Nat.pow 2 53 * Nat.pow 2 k) / den).log2 < 53 + k := by
    refine log2_lt_of_lt (Nat.add_pos_left (by decide) k) ?_
    rw [two_pow_add, Nat.div_lt_iff_lt_mul hpos, Nat.mul_comm _ den]
    exact Nat.mul_lt_mul_of_pos_right h (Nat.mul_pos (two_pow_pos _) (two_pow_pos _))
  have hle : nearestUnits (num * (Nat.pow 2 53 * Nat.pow 2 k)) den ≤
      (Nat.pow 2 53 - 1) * Nat.pow 2 k := by
    refine nearestUnits_le hpos (Nat.dvd_trans (spacing_dvd hlog) (Nat.dvd_mul_left ..)) ?_
    rw [Nat.mul_right_comm _ _ den, ← Nat.mul_assoc]
    exact Nat.mul_le_mul_right _ (mul_le_pred_mul h hden)
  refine Nat.lt_of_le_of_lt hle (Nat.mul_lt_mul_of_pos_right ?_ (two_pow_pos k))
  exact Nat.sub_lt (two_pow_pos 53) Nat.one_pos

end Binary64

namespace Span
open Binary64

theorem nearestUnits_fraction_lt (d : Span) :
    nearestUnits (d.subseconds * one) nanosPerSecond < one :=
  nearestUnits_lt_one (Nat.mod_lt _ (by decide)) (by decide)

/-- The seconds of a span are below those of any with more whole seconds. -/
theorem magnitude_le_of_seconds_lt {a b : Span} (h : a.seconds < b.seconds) :
    a.magnitude ≤ nearestUnits (b.seconds * one) 1 := by
  have hfraction := a.nearestUnits_fraction_lt
  dsimp only [magnitude, addUnits]
  generalize nearestUnits (a.subseconds * one) nanosPerSecond = fraction at *
  by_cases hsmall : a.seconds < wholeLimit
  · rw [nearestUnits_whole hsmall]
    refine nearestUnits_mono Nat.one_pos ?_
    calc a.seconds * one + fraction
        ≤ a.seconds * one + one := Nat.add_le_add_left (Nat.le_of_lt hfraction) _
      _ = (a.seconds + 1) * one := (Nat.succ_mul ..).symm
      _ ≤ b.seconds * one := Nat.mul_le_mul_right _ h
  · have hlarge : wholeLimit * one ≤ nearestUnits (a.seconds * one) 1 := by
      calc wholeLimit * one
          = nearestUnits (wholeLimit * one) 1 := nearestUnits_wholeLimit.symm
        _ ≤ nearestUnits (a.seconds * one) 1 :=
          nearestUnits_mono Nat.one_pos (Nat.mul_le_mul_right _ (Nat.le_of_not_lt hsmall))
    have hlost : 2 * fraction < spacing (nearestUnits (a.seconds * one) 1) := by
      have hspacing := two_le_spacing hlarge
      omega
    rw [(fits_nearestUnits _ _).nearestUnits_add hlost]
    exact nearestUnits_mono Nat.one_pos (Nat.mul_le_mul_right _ (Nat.le_of_lt h))

/-- The clock does not go back as a floating-point number. -/
theorem magnitude_mono {a b : Span} (h : a.nanos ≤ b.nanos) : a.magnitude ≤ b.magnitude := by
  have hseconds : a.seconds ≤ b.seconds := Nat.div_le_div_right h
  rcases Nat.lt_or_eq_of_le hseconds with hlt | heq
  · have hfits := (fits_nearestUnits (b.seconds * one) 1).nearestUnits_eq Nat.one_pos
    rw [Nat.mul_one] at hfits
    calc a.magnitude
        ≤ nearestUnits (b.seconds * one) 1 := magnitude_le_of_seconds_lt hlt
      _ = nearestUnits (nearestUnits (b.seconds * one) 1) 1 := hfits.symm
      _ ≤ b.magnitude := nearestUnits_mono Nat.one_pos (Nat.le_add_right ..)
  · have hsub : a.subseconds ≤ b.subseconds := by
      have ha := Nat.div_add_mod a.nanos nanosPerSecond
      have hb := Nat.div_add_mod b.nanos nanosPerSecond
      dsimp only [seconds, subseconds] at heq ⊢
      rw [heq] at ha
      omega
    dsimp only [magnitude, addUnits]
    rw [heq]
    exact nearestUnits_mono Nat.one_pos (Nat.add_le_add_left
      (nearestUnits_mono (by decide) (Nat.mul_le_mul_right _ hsub)) _)

end Span

end BattlePilot
