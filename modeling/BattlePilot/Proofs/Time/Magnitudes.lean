import BattlePilot.Proofs.Number.Seconds
import BattlePilot.Proofs.Number.Shortest

/-! Spans and their seconds as floating-point numbers. Below 2²³ seconds the numbers are closer
together than the nanoseconds, so that a span is the one nearest to its magnitude; from there on
they are farther apart, so that a number is the magnitude of the span nearest to it. Either way the
span that a number gives is given by its own magnitude as well. -/

namespace BattlePilot.Span
open Binary64

/-- From so many seconds on, floating-point numbers are farther apart than nanoseconds. -/
def fineLimit : Nat := Nat.pow 2 23

/-- The whole seconds and the rounded fraction, before their sum is rounded. -/
def unrounded (d : Span) : Nat :=
  d.seconds * one + nearestUnits (d.subseconds * one) nanosPerSecond

variable {d : Span} {units : Nat}

theorem magnitude_eq (h : d.seconds < wholeLimit) : d.magnitude = nearestUnits d.unrounded 1 := by
  rw [magnitude, addUnits, nearestUnits_whole h, unrounded]

theorem unrounded_lt (d : Span) : d.unrounded < (d.seconds + 1) * one := by
  rw [unrounded, Nat.succ_mul]
  exact Nat.add_lt_add_left d.nearestUnits_fraction_lt _

/-- The fraction is rounded at its last digit. -/
theorem dist_unrounded (d : Span) :
    2 * wholeLimit * Nat.dist (d.unrounded * nanosPerSecond) (d.nanos * one) ≤
      nanosPerSecond * one := by
  have hsplit : d.nanos * one = d.seconds * one * nanosPerSecond + d.subseconds * one := by
    rw [Nat.mul_right_comm, ← Nat.add_mul, seconds, subseconds, Nat.div_add_mod']
  have hnarrow : wholeLimit * spacing (d.subseconds * one / nanosPerSecond) ≤ one := by
    have hone : Nat.pow 2 0 * one = one := by rw [show Nat.pow 2 0 = 1 from rfl, Nat.one_mul]
    refine hone ▸ spacing_le (Nat.div_lt_of_lt_mul ?_)
    rw [hone]
    exact Nat.mul_lt_mul_of_pos_right (Nat.mod_lt _ (by decide)) pos_one
  have hround := @dist_nearestUnits (d.subseconds * one) nanosPerSecond (by decide)
  rw [unrounded, hsplit, Nat.add_mul, Nat.dist_add_add_left]
  generalize Nat.dist _ _ = distance at *
  calc 2 * wholeLimit * distance
      = wholeLimit * (2 * distance) := by rw [Nat.mul_comm 2, Nat.mul_assoc]
    _ ≤ wholeLimit * (nanosPerSecond * spacing (d.subseconds * one / nanosPerSecond)) :=
      Nat.mul_le_mul_left _ hround
    _ ≤ nanosPerSecond * one := by
      rw [Nat.mul_left_comm]
      exact Nat.mul_le_mul_left _ hnarrow

/-- Below `fineLimit` a span is the one nearest to its magnitude. -/
theorem ofMagnitude?_magnitude_of_lt (h : d.seconds < fineLimit) :
    ofMagnitude? d.magnitude = some d := by
  have hround := dist_nearestUnits d.unrounded Nat.one_pos
  rw [Nat.mul_one, Nat.one_mul, Nat.div_one, ← magnitude_eq (Nat.lt_trans h (by decide))] at hround
  have hnarrow : wholeLimit * spacing d.unrounded ≤ fineLimit * one := by
    rw [fineLimit] at *
    exact spacing_le (Nat.lt_of_lt_of_le d.unrounded_lt (Nat.mul_le_mul_right one h))
  have hfraction := d.dist_unrounded
  have htriangle := Nat.dist.triangle_inequality (d.magnitude * nanosPerSecond)
    (d.unrounded * nanosPerSecond) (d.nanos * one)
  rw [Nat.dist_mul_right] at htriangle
  have hnear : 2 * Nat.dist (d.magnitude * nanosPerSecond) (d.nanos * one) < one := by
    have hpos := pos_one
    have hwhole : wholeLimit = 9007199254740992 := by decide
    have hfine : fineLimit = 8388608 := by decide
    rw [hwhole] at hnarrow hfraction
    rw [hfine] at hnarrow
    simp only [nanosPerSecond] at *
    omega
  rw [ofMagnitude?, roundQuotient_of_dist hnear, ofNanos?_nanos]

/-- A span is half a nanosecond away at most from the number that gives it. -/
theorem dist_of_ofMagnitude? (hd : ofMagnitude? units = some d) :
    2 * Nat.dist (d.nanos * one) (units * nanosPerSecond) ≤ one := by
  rw [nanos_of_ofNanos? hd]
  exact dist_roundQuotient _ pos_one

theorem fineLimit_le_of_ofMagnitude? (h : Fits units) (hd : ofMagnitude? units = some d)
    (hlong : fineLimit ≤ d.seconds) : fineLimit * one ≤ units := by
  refine Nat.le_of_not_lt fun hlt => ?_
  have hroom : wholeLimit * units + fineLimit * one ≤ wholeLimit * (fineLimit * one) := by
    rw [fineLimit] at hlt ⊢
    exact h.add_part_le hlt
  have hnear := dist_of_ofMagnitude? hd
  have hnanos : fineLimit * nanosPerSecond * one ≤ d.nanos * one :=
    Nat.mul_le_mul_right _ ((Nat.le_div_iff_mul_le (by decide)).1 hlong)
  have hpos := pos_one
  have hwhole : wholeLimit = 9007199254740992 := by decide
  have hfine : fineLimit = 8388608 := by decide
  rw [hwhole, hfine] at hroom
  rw [hfine] at hnanos
  simp only [nanosPerSecond, Nat.dist] at *
  omega

theorem magnitude_of_dvd (h : Fits units) (hd : ofMagnitude? units = some d)
    (hwhole : one ∣ units) : d.magnitude = units := by
  obtain ⟨n, hn⟩ := hwhole
  rw [Nat.mul_comm] at hn
  rw [hn, ofMagnitude?_whole] at hd
  have hnanos := nanos_of_ofNanos? hd
  have hseconds : d.seconds = n := by rw [seconds, hnanos, Nat.mul_div_cancel _ (by decide)]
  have hsubseconds : d.subseconds = 0 := by rw [subseconds, hnanos, Nat.mul_mod_left]
  rw [hn, ← hseconds]
  exact magnitude_whole hsubseconds (hseconds ▸ hn ▸ h)

theorem seconds_lt_of_ofMagnitude? (hd : ofMagnitude? units = some d)
    (hsmall : units < Nat.pow 2 52 * one) : d.seconds < wholeLimit := by
  refine Nat.lt_of_not_le fun hle => ?_
  have hnear := dist_of_ofMagnitude? hd
  have hnanos : wholeLimit * nanosPerSecond * one ≤ d.nanos * one :=
    Nat.mul_le_mul_right _ ((Nat.le_div_iff_mul_le (by decide)).1 hle)
  have hwhole : wholeLimit = 9007199254740992 := by decide
  have hbound : Nat.pow 2 52 = 4503599627370496 := by decide
  rw [hwhole] at hnanos
  rw [hbound] at hsmall
  simp only [nanosPerSecond, Nat.dist] at *
  omega

/-- Half a nanosecond and the error of the fraction are less than half the spacing of a number that
is large enough. -/
theorem near_of_ofMagnitude? (hd : ofMagnitude? units = some d)
    (hlarge : fineLimit * one ≤ units) :
    2 * Nat.dist d.unrounded units < spacing units := by
  have hspacing : 2 * fineLimit * one ≤ wholeLimit * spacing units := by
    rw [fineLimit] at hlarge ⊢
    exact le_spacing hlarge
  have hfraction := d.dist_unrounded
  have hnear := dist_of_ofMagnitude? hd
  have htriangle := Nat.dist.triangle_inequality (d.unrounded * nanosPerSecond) (d.nanos * one)
    (units * nanosPerSecond)
  rw [Nat.dist_mul_right] at htriangle
  have hpos := pos_one
  have hwhole : wholeLimit = 9007199254740992 := by decide
  have hfine : fineLimit = 8388608 := by decide
  rw [hwhole] at hspacing hfraction
  rw [hfine] at hspacing
  simp only [nanosPerSecond] at *
  omega

/-- From `fineLimit` on a number is the magnitude of the span nearest to it. -/
theorem magnitude_of_ofMagnitude? (h : Fits units) (hd : ofMagnitude? units = some d)
    (hlong : fineLimit ≤ d.seconds) : d.magnitude = units := by
  by_cases hdvd : one ∣ units
  · exact magnitude_of_dvd h hd hdvd
  · have hlarge := fineLimit_le_of_ofMagnitude? h hd hlong
    have hsmall : units < Nat.pow 2 52 * one := Nat.lt_of_not_le fun hle => hdvd (h.one_dvd hle)
    have hone : one ≤ units := Nat.le_trans (Nat.le_mul_of_pos_left one (by decide)) hlarge
    have hpower : Nat.pow 2 units.log2 ≠ units := fun heq => hdvd (heq ▸ one_dvd_two_pow hone)
    have hnear := near_of_ofMagnitude? hd hlarge
    have hlog : d.unrounded.log2 = units.log2 := h.log2_eq_of_dist hpower (by omega)
    rw [magnitude_eq (seconds_lt_of_ofMagnitude? hd hsmall)]
    exact h.nearestUnits_of_log2 hlog hnear

/-- The span that a number gives is the one that its own magnitude gives. -/
theorem ofMagnitude?_magnitude (h : Fits units) (hd : ofMagnitude? units = some d) :
    ofMagnitude? d.magnitude = some d := by
  rcases Nat.lt_or_ge d.seconds fineLimit with hshort | hlong
  · exact ofMagnitude?_magnitude_of_lt hshort
  · rw [magnitude_of_ofMagnitude? h hd hlong, hd]

/-! ### Texts -/

theorem fits_magnitude (d : Span) : Fits d.magnitude := fits_nearestUnits _ _

theorem overflow_of_size : UInt64.size * one ≤ overflow := by
  have hsize : UInt64.size ≤ Nat.pow 2 1024 := by decide +kernel
  unfold overflow
  generalize 1024 = k at *
  exact Nat.mul_le_mul_right one hsize

/-- The text of a span spells its magnitude. -/
theorem read?_text (h : d.magnitude < UInt64.size * one) :
    Literal.read? d.text = some (.finite false d.magnitude) := by
  have hfinite := Nat.lt_of_lt_of_le h overflow_of_size
  by_cases hwhole : d.magnitude % one = 0
  · obtain ⟨n, hn⟩ := Nat.dvd_of_mod_eq_zero hwhole
    rw [Nat.mul_comm] at hn
    have hsize : n < UInt64.size := by
      rw [hn] at h
      exact Nat.lt_of_mul_lt_mul_right h
    have htext : d.text = fixedText n 0 := by
      rw [text_of_magnitude hn hsize]
      exact congrArg Numeral.digits (Nat.div_one n).symm
    have hround : nearestUnits (n * one) (Nat.pow 10 0) = d.magnitude := by
      have hfits := d.fits_magnitude.nearestUnits_eq Nat.one_pos
      rw [Nat.mul_one] at hfits
      rw [← hn]
      exact hfits
    rw [htext, Literal.read?_fixedText, ofQuotient_of_lt hround hfinite]
  · rw [text, if_neg hwhole, read?_shortestText d.fits_magnitude hfinite]

/-- A span that a text spells is spelled by its own text. -/
theorem ofLiteral?_text {cs : List Char} (h : ofLiteral? cs = some d) :
    ofLiteral? d.text = some d := by
  obtain ⟨units, hunits, hd⟩ := Option.bind_eq_some_iff.1 h
  obtain ⟨number, hread, hnumber⟩ := Option.bind_eq_some_iff.1 hunits
  obtain ⟨negative, rfl⟩ := eq_of_nonNegative? hnumber
  have hback := ofMagnitude?_magnitude (Literal.fits_of_read? hread) hd
  have hlt : d.magnitude < UInt64.size * one := by
    refine Nat.lt_of_not_le fun hle => ?_
    rw [(ofMagnitude?_eq_none_iff_of_fits d.fits_magnitude).2 hle] at hback
    cases hback
  rw [ofLiteral?, read?_text hlt, Option.bind_some, nonNegative?_finite_false, Option.bind_some,
    hback]

end BattlePilot.Span
