import BattlePilot.Number.Shortest
import BattlePilot.Proofs.Number.Order
import BattlePilot.Proofs.Number.FixedWidth

/-! The texts of magnitudes are read back. A text with so many places after the point is the literal
of its coefficient over a power of ten, and the shortest text is chosen so that this rounds to the
magnitude. -/

namespace BattlePilot

namespace Binary64

theorem nearestUnits_eq_zero {num den : Nat} (h : 2 * num < den) : nearestUnits num den = 0 := by
  have hquotient : num / den = 0 := Nat.div_eq_of_lt (by omega)
  have hspacing : spacing 0 = 1 := by decide
  have hround : roundQuotient num den = 0 := by
    apply roundQuotient_of_dist
    rwa [Nat.zero_mul, Nat.dist_zero_right]
  dsimp only [nearestUnits]
  rw [hquotient, hspacing, Nat.mul_one, Nat.mul_one, hround]

theorem fits_overflow : Fits overflow := by
  unfold overflow one
  generalize 1024 = m
  generalize 1074 = k
  rw [← two_pow_add, ← Nat.one_mul (Nat.pow 2 (m + k))]
  exact fits_mul (by decide) _

theorem pos_overflow : 0 < overflow := by
  unfold overflow
  generalize 1024 = k
  exact Nat.mul_pos (two_pow_pos k) pos_one

theorem overflow_le_nearestUnits {num den : Nat} (hden : 0 < den) (h : overflow * den ≤ num) :
    overflow ≤ nearestUnits num den := by
  rw [← fits_overflow.nearestUnits_eq hden]
  exact nearestUnits_mono hden h

theorem ofQuotient_of_lt {num den units : Nat} (h : nearestUnits (num * one) den = units)
    (hlt : units < overflow) (negative : Bool) :
    ofQuotient negative num den = .finite negative units := by
  dsimp only [ofQuotient]
  rw [h, if_pos hlt]

end Binary64

namespace Decimal
open Binary64

theorem lt_pow_width (d : Decimal) : d.coefficient < Nat.pow 10 d.width :=
  (Nat.length_toDigits_le_iff (by decide) Nat.length_toDigits_pos).1 (Nat.le_refl _)

theorem pow_le_of_lt_width {d : Decimal} {k : Nat} (hk : 0 < k) (h : k < d.width) :
    Nat.pow 10 k ≤ d.coefficient :=
  Nat.le_of_not_lt fun hlt =>
    absurd ((Nat.length_toDigits_le_iff (by decide) hk).2 hlt) (Nat.not_le_of_lt h)

theorem ten_pow_pos (k : Nat) : 0 < Nat.pow 10 k := Nat.pow_pos (by decide)

theorem ten_pow_add (m n : Nat) : Nat.pow 10 (m + n) = Nat.pow 10 m * Nat.pow 10 n :=
  Nat.pow_add ..

theorem ofQuotient_of_large {coefficient places : Nat}
    (h : Nat.pow 10 (310 + places) ≤ coefficient) (negative : Bool) :
    ofQuotient negative coefficient (Nat.pow 10 places) = .infinite negative := by
  have hpow : Nat.pow 2 1024 ≤ Nat.pow 10 310 := by decide +kernel
  rw [ten_pow_add] at h
  have hoverflow : overflow * Nat.pow 10 places ≤ coefficient * one := by
    unfold overflow
    generalize 1024 = m at *
    generalize 310 = n at *
    generalize Nat.pow 10 places = den at *
    calc Nat.pow 2 m * one * den
        = Nat.pow 2 m * den * one := Nat.mul_right_comm ..
      _ ≤ Nat.pow 10 n * den * one := Nat.mul_le_mul_right _ (Nat.mul_le_mul_right _ hpow)
      _ ≤ coefficient * one := Nat.mul_le_mul_right _ h
  dsimp only [ofQuotient]
  exact if_neg (Nat.not_lt_of_le (overflow_le_nearestUnits (ten_pow_pos places) hoverflow))

theorem ofQuotient_of_small {coefficient width places : Nat} (h : coefficient < Nat.pow 10 width)
    (hwidth : width + 330 ≤ places) (negative : Bool) :
    ofQuotient negative coefficient (Nat.pow 10 places) = .finite negative 0 := by
  have hpow : 2 * one ≤ Nat.pow 10 330 := by decide +kernel
  have hplaces : Nat.pow 10 (width + 330) ≤ Nat.pow 10 places :=
    Nat.pow_le_pow_right (by decide) hwidth
  rw [ten_pow_add] at hplaces
  generalize 330 = n at *
  refine ofQuotient_of_lt (nearestUnits_eq_zero ?_) pos_overflow negative
  calc 2 * (coefficient * one)
      = coefficient * (2 * one) := Nat.mul_left_comm ..
    _ ≤ coefficient * Nat.pow 10 n := Nat.mul_le_mul_left _ hpow
    _ < Nat.pow 10 width * Nat.pow 10 n := Nat.mul_lt_mul_of_pos_right h (ten_pow_pos n)
    _ ≤ Nat.pow 10 places := hplaces

/-- Whatever the digits, a literal spells the number nearest to it. -/
theorem toBinary64_places (negative : Bool) (coefficient places : Nat) :
    toBinary64 negative ⟨coefficient, -places⟩ =
      .ofQuotient negative coefficient (Nat.pow 10 places) := by
  have hbelow := lt_pow_width ⟨coefficient, -places⟩
  have habove := @pow_le_of_lt_width ⟨coefficient, -places⟩ (310 + places)
  unfold toBinary64
  dsimp only at *
  generalize width ⟨coefficient, -places⟩ = width at *
  split
  · next hzero =>
    have hnone : nearestUnits (0 * one) (Nat.pow 10 places) = 0 :=
      nearestUnits_eq_zero (by rw [Nat.zero_mul]; exact Nat.pow_pos (by decide))
    rw [hzero, ofQuotient_of_lt hnone pos_overflow]
  split
  · exact (ofQuotient_of_large (habove (by omega) (by omega)) negative).symm
  split
  · exact (ofQuotient_of_small hbelow (by omega) negative).symm
  split
  · obtain rfl : places = 0 := by omega
    rw [show Nat.pow 10 (-((0 : Nat) : Int)).toNat = 1 from rfl, Nat.mul_one]
  · rw [Int.neg_neg, Int.toNat_natCast]

end Decimal

namespace Numeral

theorem value_append (cs ds : List Char) :
    value (cs ++ ds) = Nat.pow 10 ds.length * value cs + value ds := by
  have h : value (cs ++ ds) = Nat.ofDigitChars 10 ds (value cs) := Nat.ofDigitChars_append 0
  rw [h, Nat.ofDigitChars_eq_ofDigitChars_zero]
  rfl

theorem length_digits_le {n places : Nat} (hplaces : 0 < places) (h : n < Nat.pow 10 places) :
    (digits n).length ≤ places :=
  (Nat.length_toDigits_le_iff (by decide) hplaces).2 h

end Numeral

namespace Literal
open Binary64

theorem sign_of_isDigit {c : Char} {rest : List Char} (h : Numeral.isDigit c = true) :
    sign (c :: rest) = (false, c :: rest) := by
  unfold sign
  split
  · next heq => exact absurd (List.cons.inj heq).1 (Numeral.ne_of_isDigit h rfl)
  · next heq => exact absurd (List.cons.inj heq).1 (Numeral.ne_of_isDigit h rfl)
  · rfl

theorem decimal?_point {whole fraction : List Char} (hne : whole ≠ [])
    (hwhole : ∀ c ∈ whole, Numeral.isDigit c = true)
    (hfraction : ∀ c ∈ fraction, Numeral.isDigit c = true) :
    decimal? (whole ++ '.' :: fraction) =
      some ⟨Numeral.value (whole ++ fraction), -fraction.length⟩ := by
  have hpoint : Numeral.isDigit '.' = false := by decide
  have htake : fraction.takeWhile Numeral.isDigit = fraction :=
    List.takeWhile_eq_self_iff.2 hfraction
  have hdrop : fraction.dropWhile Numeral.isDigit = [] := List.dropWhile_eq_nil_iff.2 hfraction
  simp [decimal?, List.takeWhile_append_of_pos hwhole, List.dropWhile_append_of_pos hwhole, hpoint,
    htake, hdrop, hne, exponent?_nil]

theorem decimal?_fixedText (coefficient places : Nat) :
    decimal? (fixedText coefficient places) = some ⟨coefficient, -places⟩ := by
  dsimp only [fixedText]
  split
  · next hnone =>
    subst hnone
    rw [decimal?_digits (Numeral.digits_ne_nil _) fun _ => Numeral.isDigit_of_mem_digits,
      Numeral.value_digits]
    exact congrArg (fun n => some (Decimal.mk n 0)) (Nat.div_one coefficient)
  · next hsome =>
    have hfits := Numeral.length_digits_le (Nat.pos_of_ne_zero hsome)
      (Nat.mod_lt coefficient (Decimal.ten_pow_pos places))
    rw [decimal?_point (Numeral.digits_ne_nil _) (fun _ => Numeral.isDigit_of_mem_digits)
      fun _ => Numeral.isDigit_of_mem_padded, Numeral.value_append, Numeral.value_padded,
      Numeral.value_digits, Numeral.length_padded hfits, Nat.div_add_mod]

theorem fixedText_head (coefficient places : Nat) :
    ∃ c rest, fixedText coefficient places = c :: rest ∧ Numeral.isDigit c = true := by
  obtain ⟨c, whole, hwhole⟩ :=
    List.exists_cons_of_ne_nil (Numeral.digits_ne_nil (coefficient / Nat.pow 10 places))
  have hdigit : Numeral.isDigit c = true :=
    Numeral.isDigit_of_mem_digits (hwhole ▸ List.mem_cons_self)
  dsimp only [fixedText]
  rw [hwhole]
  split
  · exact ⟨c, whole, rfl, hdigit⟩
  · exact ⟨c, _, List.cons_append, hdigit⟩

theorem read?_fixedText (coefficient places : Nat) :
    read? (fixedText coefficient places) =
      some (.ofQuotient false coefficient (Nat.pow 10 places)) := by
  obtain ⟨c, rest, hhead, hdigit⟩ := fixedText_head coefficient places
  have hdecimal := decimal?_fixedText coefficient places
  rw [hhead] at hdecimal ⊢
  rw [read?_of_sign (sign_of_isDigit hdigit) hdigit, hdecimal, Option.map_some,
    Decimal.toBinary64_places]

end Literal

namespace Binary64

theorem readsBack_iff {units coefficient places : Nat} :
    readsBack units coefficient places = true ↔
      nearestUnits (coefficient * one) (Nat.pow 10 places) = units :=
  beq_iff_eq

theorem readsBack_of_atPlaces? {units places coefficient : Nat}
    (h : atPlaces? units places = some coefficient) :
    readsBack units coefficient places = true := by
  have hfound := List.find?_some h
  exact hfound

/-- With all its places a magnitude is written exactly. -/
theorem readsBack_all {units : Nat} (h : Fits units) (places : Nat)
    (hall : one ∣ Nat.pow 10 places) :
    readsBack units (units * Nat.pow 10 places / one) places = true := by
  rw [readsBack_iff, Nat.div_mul_cancel (Nat.dvd_mul_left_of_dvd hall units)]
  exact h.nearestUnits_eq (Decimal.ten_pow_pos places)

theorem one_dvd_ten_pow : one ∣ Nat.pow 10 1074 := by
  unfold one
  generalize 1074 = k
  exact pow_dvd_pow_of_dvd (⟨5, rfl⟩ : 2 ∣ 10) k

/-- The search for the fewest places ends where the decimal reads back. -/
theorem readsBack_shortestWithin {units last : Nat} (h : Fits units)
    (hall : one ∣ Nat.pow 10 last) :
    readsBack units (shortestWithin units last).1 (shortestWithin units last).2 = true := by
  dsimp only [shortestWithin]
  cases hfound : (List.range last).findSome? fun places => (atPlaces? units places).map (·, places)
  with
  | none => exact readsBack_all h last hall
  | some found =>
    obtain ⟨places, -, hplaces⟩ := List.exists_of_findSome?_eq_some hfound
    obtain ⟨coefficient, hcoefficient, rfl⟩ := Option.map_eq_some_iff.1 hplaces
    exact readsBack_of_atPlaces? hcoefficient

theorem readsBack_shortest {units : Nat} (h : Fits units) :
    readsBack units (shortest units).1 (shortest units).2 = true := by
  have hall := one_dvd_ten_pow
  unfold shortest
  generalize 1074 = last at *
  exact readsBack_shortestWithin h hall

theorem read?_shortestText {units : Nat} (h : Fits units) (hlt : units < overflow) :
    Literal.read? (shortestText units) = some (.finite false units) := by
  rw [shortestText, Literal.read?_fixedText,
    ofQuotient_of_lt (readsBack_iff.1 (readsBack_shortest h)) hlt]

end Binary64
end BattlePilot
