import BattlePilot.Number.Literal
import BattlePilot.Proofs.Number.Nearest
import Mathlib.Data.List.TakeWhile

/-! Numerals that are read. The digits of a natural are read back as that natural, and every numeral
is also a literal, that of a whole number. -/

namespace BattlePilot

namespace Numeral

theorem ne_of_isDigit {c d : Char} (h : isDigit c = true) (hd : isDigit d = false) : c ≠ d := by
  rintro rfl
  rw [h] at hd
  cases hd

theorem toNat_of_isDigit {c : Char} (h : isDigit c = true) : 48 ≤ c.toNat ∧ c.toNat ≤ 57 := by
  simp only [isDigit, Bool.and_eq_true, decide_eq_true_eq] at h
  exact h

theorem isDigit_of_mem_digits {n : Nat} (h : c ∈ digits n) : isDigit c = true :=
  Nat.isDigit_of_mem_toDigits (by decide) (by decide) h

theorem digits_ne_nil (n : Nat) : digits n ≠ [] := Nat.toDigits_ne_nil

theorem value_digits (n : Nat) : value (digits n) = n := Nat.ofDigitChars_ten_toDigits

theorem isDigit_of_mem_padded {width n : Nat} (h : c ∈ padded width n) : isDigit c = true := by
  rcases List.mem_append.1 h with h | h
  · rw [List.eq_of_mem_replicate h]
    decide
  · exact isDigit_of_mem_digits h

theorem dropPlus_of_all {cs : List Char} (h : ∀ c ∈ cs, isDigit c = true) : dropPlus cs = cs := by
  unfold dropPlus
  split
  · cases h '+' List.mem_cons_self
  · rfl

/-- A run of digits that spells a natural, after at most one plus sign. -/
structure Spells (cs : List Char) (n : Nat) : Prop where
  ne_nil : dropPlus cs ≠ []
  digits : ∀ c ∈ dropPlus cs, isDigit c = true
  value_eq : value (dropPlus cs) = n

theorem Spells.unique {cs : List Char} (h : Spells cs m) (h' : Spells cs n) : m = n :=
  h.value_eq.symm.trans h'.value_eq

/-- A numeral begins with a digit or a plus sign. -/
theorem Spells.head {cs : List Char} (h : Spells cs n) :
    ∃ c rest, cs = c :: rest ∧ (c = '+' ∨ isDigit c = true) := by
  match cs, h with
  | [], h => exact absurd rfl h.ne_nil
  | c :: rest, h =>
    refine ⟨c, rest, rfl, ?_⟩
    by_cases hplus : c = '+'
    · exact .inl hplus
    · have hdrop : dropPlus (c :: rest) = c :: rest := by
        unfold dropPlus
        split
        · next heq => exact absurd (List.cons.inj heq).1 hplus
        · rfl
      have hmem : c ∈ dropPlus (c :: rest) := by
        rw [hdrop]
        exact List.mem_cons_self
      exact .inr (h.digits c hmem)

theorem read?_eq_some_iff {bound : Nat} {cs : List Char} :
    read? bound cs = some n ↔ Spells cs n ∧ n < bound := by
  simp only [read?, Option.ite_none_right_eq_some, Option.some.injEq, List.all_eq_true]
  constructor
  · rintro ⟨⟨hne, hall, hlt⟩, rfl⟩
    exact ⟨⟨hne, hall, rfl⟩, hlt⟩
  · rintro ⟨⟨hne, hall, rfl⟩, hlt⟩
    exact ⟨⟨hne, hall, hlt⟩, rfl⟩

theorem spells_digits (n : Nat) : Spells (digits n) n := by
  have hall : ∀ c ∈ digits n, isDigit c = true := fun c => isDigit_of_mem_digits
  have hplus := dropPlus_of_all hall
  exact ⟨hplus.symm ▸ digits_ne_nil n, hplus.symm ▸ hall, hplus.symm ▸ value_digits n⟩

end Numeral

namespace Decimal
open Binary64

theorem width_whole {n : Nat} (h : n < wholeLimit) (exponent : Int) :
    width ⟨n, exponent⟩ ≤ 16 := by
  rw [width, Numeral.digits, Nat.length_toDigits_le_iff (by decide) (by decide)]
  exact Nat.lt_trans h (by decide)

theorem toBinary64_whole {n : Nat} (h : n < wholeLimit) (negative : Bool) :
    toBinary64 negative ⟨n, 0⟩ = .finite negative (n * one) := by
  have hwidth := width_whole h 0
  unfold toBinary64
  dsimp only
  split
  · next hzero => rw [hzero, Nat.zero_mul]
  · rw [if_neg (by omega), if_neg (by omega), if_pos (Int.le_refl 0), ofQuotient]
    have hscaled : n * Nat.pow 10 (0 : Int).toNat = n := Nat.mul_one n
    rw [hscaled, nearestUnits_whole h]
    exact if_pos (whole_lt_overflow h)

end Decimal

namespace Literal
open Binary64

theorem toLower_of_isDigit {c : Char} (h : Numeral.isDigit c = true) : c.toLower = c := by
  refine dif_neg fun hupper => ?_
  have hdigit : c ≤ '9' := by
    simp only [Numeral.isDigit, Bool.and_eq_true, decide_eq_true_eq] at h
    exact h.2
  have hle : 'A'.val ≤ '9'.val := UInt32.le_trans hupper.1 hdigit
  exact absurd hle (by decide)

theorem exponent?_nil : exponent? [] = some 0 := rfl

theorem decimal?_digits {cs : List Char} (hne : cs ≠ [])
    (hall : ∀ c ∈ cs, Numeral.isDigit c = true) :
    decimal? cs = some ⟨Numeral.value cs, 0⟩ := by
  have htake : cs.takeWhile Numeral.isDigit = cs := List.takeWhile_eq_self_iff.2 hall
  have hdrop : cs.dropWhile Numeral.isDigit = [] := List.dropWhile_eq_nil_iff.2 hall
  simp [decimal?, htake, hdrop, hne, exponent?_nil]

theorem sign_of_spells {cs : List Char} (h : Numeral.Spells cs n) :
    sign cs = (false, Numeral.dropPlus cs) := by
  obtain ⟨c, rest, rfl, rfl | hdigit⟩ := h.head
  · rfl
  · unfold sign Numeral.dropPlus
    split
    · next heq =>
      cases heq
      cases hdigit
    · next heq =>
      cases heq
      cases hdigit
    · next hminus hplus =>
      split
      · next heq => exact absurd heq (hplus _)
      · rfl

/-- No word begins with a digit. -/
theorem read?_of_sign {cs rest : List Char} {c : Char} {negative : Bool}
    (hsign : sign cs = (negative, c :: rest)) (h : Numeral.isDigit c = true) :
    read? cs = (decimal? (c :: rest)).map (Decimal.toBinary64 negative) := by
  have hword {d : Char} {word : List Char} (hd : Numeral.isDigit d = false) :
      (c :: rest).map Char.toLower ≠ d :: word := by
    rw [List.map_cons, toLower_of_isDigit h]
    exact fun heq => Numeral.ne_of_isDigit h hd (List.cons.inj heq).1
  have hinf : (c :: rest).map Char.toLower ≠ "inf".toList := hword (by decide)
  have hinfinity : (c :: rest).map Char.toLower ≠ "infinity".toList := hword (by decide)
  have hnan : (c :: rest).map Char.toLower ≠ "nan".toList := hword (by decide)
  simp only [read?, hsign, hinf, hinfinity, hnan, or_self, if_false]

/-- A numeral is a literal of a whole number. -/
theorem read?_of_spells {cs : List Char} (h : Numeral.Spells cs n) :
    read? cs = some (Decimal.toBinary64 false ⟨n, 0⟩) := by
  obtain ⟨c, rest, hhead⟩ := List.exists_cons_of_ne_nil h.ne_nil
  have hdigit : Numeral.isDigit c = true := h.digits c (hhead ▸ List.mem_cons_self)
  rw [read?_of_sign ((sign_of_spells h).trans (by rw [hhead])) hdigit, ← hhead,
    decimal?_digits h.ne_nil h.digits, h.value_eq, Option.map_some]

end Literal
end BattlePilot
