import BattlePilot.Proofs.Number.Numerals
import BattlePilot.Time.Span

/-! Seconds as numbers and as text. A magnitude is too long for a span exactly from half a
nanosecond below 2⁶⁴ seconds on, so the literals that are too long are those of 2⁶⁴ and more. Whole
seconds that fit 53 binary digits are written with the digits of a natural, and read back. -/

namespace BattlePilot

/-- An even natural is reached from a half below it on. -/
theorem le_roundQuotient_iff {num den bound : Nat} (hden : 0 < den) (hpos : 0 < bound)
    (heven : bound % 2 = 0) :
    bound ≤ roundQuotient num den ↔ (2 * bound - 1) * den ≤ 2 * num := by
  have hnum : num = den * (num / den) + num % den := (Nat.div_add_mod num den).symm
  have hrest : num % den < den := Nat.mod_lt num hden
  have hbound : (2 * bound - 1) * den + den = 2 * (den * bound) := by
    rw [← Nat.succ_mul, Nat.mul_left_comm 2 den, Nat.mul_comm den]
    exact congrArg (· * den) (by omega)
  dsimp only [roundQuotient]
  generalize num / den = low at *
  generalize num % den = rest at *
  rcases Nat.lt_trichotomy (low + 1) bound with hlt | heq | hgt
  · have : den * (low + 2) ≤ den * bound := Nat.mul_le_mul_left den hlt
    rw [Nat.mul_add] at this
    split <;> omega
  · subst heq
    rw [Nat.mul_succ den] at hbound
    split <;> omega
  · have : den * bound ≤ den * low := Nat.mul_le_mul_left den (Nat.le_of_lt_succ hgt)
    split <;> omega

namespace Binary64

theorem nonNegative?_finite_false {units : Nat} :
    nonNegative? (.finite false units) = some units := by
  simp [nonNegative?]

theorem eq_of_nonNegative? {number : Binary64} {units : Nat}
    (h : number.nonNegative? = some units) : ∃ negative, number = .finite negative units := by
  cases number with
  | finite negative u =>
    simp only [nonNegative?, Option.ite_none_left_eq_some, Option.some.injEq] at h
    exact ⟨negative, h.2 ▸ rfl⟩
  | infinite | nan => cases h

theorem isDigit_or_point_of_mem_fixedText {coefficient places : Nat} {c : Char}
    (h : c ∈ fixedText coefficient places) : Numeral.isDigit c = true ∨ c = '.' := by
  dsimp only [fixedText] at h
  split at h
  · exact .inl (Numeral.isDigit_of_mem_digits h)
  · rcases List.mem_append.1 h with h | h
    · exact .inl (Numeral.isDigit_of_mem_digits h)
    · rcases List.mem_cons.1 h with h | h
      · exact .inr h
      · exact .inl (Numeral.isDigit_of_mem_padded h)

theorem isDigit_or_point_of_mem_shortestText {units : Nat} {c : Char}
    (h : c ∈ shortestText units) : Numeral.isDigit c = true ∨ c = '.' :=
  isDigit_or_point_of_mem_fixedText h

end Binary64

namespace Literal
open Binary64

theorem fits_of_toBinary64 {negative : Bool} {d : Decimal}
    (h : d.toBinary64 negative = .finite minus units) : Fits units := by
  have hzero : Fits 0 := Nat.dvd_zero _
  have hquotient {num den : Nat} (h : ofQuotient negative num den = .finite minus units) :
      Fits units := by
    dsimp only [ofQuotient] at h
    split at h
    · cases h
      exact fits_nearestUnits _ _
    · cases h
  unfold Decimal.toBinary64 at h
  split at h
  · cases h
    exact hzero
  · split at h
    · cases h
    · split at h
      · cases h
        exact hzero
      · split at h <;> exact hquotient h

/-- A literal spells a number of 53 binary digits. -/
theorem fits_of_read? {cs : List Char} (h : read? cs = some (.finite negative units)) :
    Fits units := by
  dsimp only [read?] at h
  split at h
  · cases h
  · split at h
    · cases h
    · obtain ⟨d, -, hd⟩ := Option.map_eq_some_iff.1 h
      exact fits_of_toBinary64 hd

end Literal

namespace Span
open Binary64

theorem ofNanos?_eq_none_iff {n : Nat} : ofNanos? n = none ↔ limit ≤ n := by
  unfold ofNanos?
  split <;> simp <;> omega

theorem ofMagnitude?_eq_none_iff {units : Nat} :
    ofMagnitude? units = none ↔ (2 * limit - 1) * one ≤ 2 * (units * nanosPerSecond) := by
  rw [ofMagnitude?, ofNanos?_eq_none_iff]
  exact le_roundQuotient_iff pos_one (by decide) (by decide)

/-- There is nothing to round just below 2⁶⁴ seconds. -/
theorem ofMagnitude?_eq_none_iff_of_fits {units : Nat} (h : Fits units) :
    ofMagnitude? units = none ↔ UInt64.size * one ≤ units := by
  rw [ofMagnitude?_eq_none_iff]
  have hadd := @Fits.add_part_le units 64 h
  have hpos := pos_one
  have hsize : Nat.pow 2 64 = UInt64.size := by decide
  have hwhole : wholeLimit = 9007199254740992 := by decide
  generalize one = o at *
  rw [hsize, hwhole] at hadd
  simp only [limit, nanosPerSecond, UInt64.size] at *
  omega

theorem ofMagnitude?_whole (n : Nat) : ofMagnitude? (n * one) = ofNanos? (n * nanosPerSecond) := by
  rw [ofMagnitude?, Nat.mul_right_comm, roundQuotient_mul _ pos_one]

theorem ofNanos?_ofSeconds (n : UInt64) :
    ofNanos? (n.toNat * nanosPerSecond) = some (ofSeconds n) :=
  ofNanos?_nanos (ofSeconds n)

/-- The span of as many seconds as a text spells, if they are not below zero and not too many. -/
def ofLiteral? (cs : List Char) : Option Span :=
  ((Literal.read? cs).bind nonNegative?).bind ofMagnitude?

/-- Whether a text spells as many seconds as no span has. -/
def TooLong (cs : List Char) : Prop :=
  ∃ units, (Literal.read? cs).bind nonNegative? = some units ∧ UInt64.size * one ≤ units

theorem tooLong_iff {cs : List Char} {units : Nat}
    (h : (Literal.read? cs).bind nonNegative? = some units) :
    TooLong cs ↔ ofMagnitude? units = none := by
  obtain ⟨number, hread, hunits⟩ := Option.bind_eq_some_iff.1 h
  obtain ⟨negative, rfl⟩ := eq_of_nonNegative? hunits
  rw [ofMagnitude?_eq_none_iff_of_fits (Literal.fits_of_read? hread), TooLong]
  simp [h]

theorem TooLong.ofLiteral?_eq_none {cs : List Char} (h : TooLong cs) : ofLiteral? cs = none := by
  obtain ⟨units, hunits, -⟩ := id h
  rw [ofLiteral?, hunits, Option.bind_some]
  exact (tooLong_iff hunits).1 h

theorem ofLiteral?_of_spells {cs : List Char} {n : UInt64} (h : Numeral.Spells cs n.toNat)
    (hn : n.toNat < wholeLimit) : ofLiteral? cs = some (ofSeconds n) := by
  have hread : (Literal.read? cs).bind nonNegative? = some (n.toNat * one) := by
    rw [Literal.read?_of_spells h, Decimal.toBinary64_whole hn, Option.bind_some,
      nonNegative?_finite_false]
  rw [ofLiteral?, hread, Option.bind_some, ofMagnitude?_whole, ofNanos?_ofSeconds]

theorem magnitude_whole {d : Span} (hsubseconds : d.subseconds = 0) (h : Fits (d.seconds * one)) :
    d.magnitude = d.seconds * one := by
  have hseconds := h.nearestUnits_eq Nat.one_pos
  rw [Nat.mul_one] at hseconds
  have hzero : nearestUnits (0 * one) nanosPerSecond = 0 := by
    rw [Nat.zero_mul]
    decide
  rw [magnitude, hsubseconds, hzero, addUnits, hseconds, Nat.add_zero, hseconds]

theorem magnitude_ofSeconds {n : UInt64} (h : n.toNat < wholeLimit) :
    (ofSeconds n).magnitude = n.toNat * one := by
  have hseconds : (ofSeconds n).seconds = n.toNat := Nat.mul_div_cancel _ (by decide)
  rw [← hseconds] at h ⊢
  exact magnitude_whole (Nat.mul_mod_left _ _) (fits_whole h)

theorem text_of_magnitude {d : Span} {n : Nat} (h : d.magnitude = n * one)
    (hn : n < UInt64.size) : d.text = Numeral.digits n := by
  have hmin : Nat.min n (UInt64.size - 1) = n := Nat.min_eq_left (Nat.le_sub_one_of_lt hn)
  rw [text, h, if_pos (Nat.mul_mod_left _ _), Nat.mul_div_cancel _ pos_one, hmin]

theorem text_ofSeconds {n : UInt64} (h : n.toNat < wholeLimit) :
    (ofSeconds n).text = Numeral.digits n.toNat :=
  text_of_magnitude (magnitude_ofSeconds h) n.toNat_lt_size

theorem ofLiteral?_text_ofSeconds {n : UInt64} (h : n.toNat < wholeLimit) :
    ofLiteral? (ofSeconds n).text = some (ofSeconds n) := by
  rw [text_ofSeconds h]
  exact ofLiteral?_of_spells (Numeral.spells_digits _) h

theorem isDigit_or_point_of_mem_text {d : Span} {c : Char} (h : c ∈ d.text) :
    Numeral.isDigit c = true ∨ c = '.' := by
  unfold text at h
  split at h
  · exact .inl (Numeral.isDigit_of_mem_digits h)
  · exact isDigit_or_point_of_mem_shortestText h

end Span

end BattlePilot
