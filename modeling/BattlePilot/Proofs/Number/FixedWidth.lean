import BattlePilot.Proofs.Number.Numerals

/-! Numerals of one width. Their bytes are in the order of their values, and a difference in one of
them decides whatever follows it; so texts made of such numerals are in the order of the numbers. -/

namespace BattlePilot

/-- The bytes of a text, in UTF-8. -/
def Text.bytes (s : String) : List UInt8 := s.toByteArray.data.toList

/-- The bytes of a run of characters, in UTF-8. -/
def Text.utf8 (cs : List Char) : List UInt8 := cs.flatMap String.utf8EncodeChar

namespace Text

theorem bytes_ofList (cs : List Char) : bytes (String.ofList cs) = utf8 cs := by
  rw [bytes, String.toByteArray_ofList, List.utf8Encode, List.data_toByteArray, utf8]

theorem utf8_append (cs ds : List Char) : utf8 (cs ++ ds) = utf8 cs ++ utf8 ds :=
  List.flatMap_append

theorem utf8_cons (c : Char) (cs : List Char) :
    utf8 (c :: cs) = String.utf8EncodeChar c ++ utf8 cs := rfl

theorem utf8_append_left_lt (cs : List Char) {ds ds' : List Char} (h : utf8 ds < utf8 ds') :
    utf8 (cs ++ ds) < utf8 (cs ++ ds') := by
  rw [utf8_append, utf8_append]
  exact List.append_left_lt h

/-- Where two texts first differ decides their order. -/
theorem append_lt_append {a b : List UInt8} (h : a < b) (hlen : a.length = b.length)
    (x y : List UInt8) : a ++ x < b ++ y := by
  induction a generalizing b with
  | nil =>
    obtain rfl := List.length_eq_zero_iff.1 hlen.symm
    exact absurd h (List.lt_irrefl _)
  | cons u a ih =>
    cases b with
    | nil => cases hlen
    | cons v b =>
      rcases List.cons_lt_cons_iff.1 h with hlt | ⟨rfl, hlt⟩
      · exact List.cons_lt_cons_iff.2 (.inl hlt)
      · exact List.cons_lt_cons_iff.2 (.inr ⟨rfl, ih hlt (Nat.succ.inj hlen)⟩)

end Text

namespace Numeral
open Text

theorem digitValue_lt {c : Char} (h : isDigit c = true) : digitValue c < 10 := by
  obtain ⟨hlow, hhigh⟩ := toNat_of_isDigit h
  have hzero : '0'.toNat = 48 := rfl
  unfold digitValue
  omega

/-- The byte of a digit. -/
theorem utf8EncodeChar_of_isDigit {c : Char} (h : isDigit c = true) :
    String.utf8EncodeChar c = [UInt8.ofNat (48 + digitValue c)] := by
  have hdigit := digitValue_lt h
  have hcode : c.val.toNat = 48 + digitValue c :=
    (Nat.add_sub_cancel' (toNat_of_isDigit h).1).symm
  rw [String.utf8EncodeChar, hcode, if_pos (by omega)]

theorem length_utf8 {cs : List Char} (h : ∀ c ∈ cs, isDigit c = true) :
    (utf8 cs).length = cs.length := by
  induction cs with
  | nil => rfl
  | cons c cs ih =>
    rw [List.forall_mem_cons] at h
    rw [utf8_cons, utf8EncodeChar_of_isDigit h.1, List.length_append, ih h.2, List.length_singleton,
      List.length_cons, Nat.add_comm]

/-! ### Values -/

theorem value_cons (c : Char) (cs : List Char) :
    value (c :: cs) = Nat.pow 10 cs.length * digitValue c + value cs := by
  have h : value (c :: cs) = Nat.ofDigitChars 10 cs (10 * 0 + digitValue c) := rfl
  rw [h, Nat.ofDigitChars_eq_ofDigitChars_zero, Nat.mul_zero, Nat.zero_add]
  rfl

theorem value_lt {cs : List Char} (h : ∀ c ∈ cs, isDigit c = true) :
    value cs < Nat.pow 10 cs.length := by
  induction cs with
  | nil => decide
  | cons c cs ih =>
    rw [List.forall_mem_cons] at h
    have hrest := ih h.2
    have hdigit : Nat.pow 10 cs.length * (digitValue c + 1) ≤ Nat.pow 10 cs.length * 10 :=
      Nat.mul_le_mul_left _ (digitValue_lt h.1)
    rw [value_cons, List.length_cons]
    calc Nat.pow 10 cs.length * digitValue c + value cs
        < Nat.pow 10 cs.length * (digitValue c + 1) := by rw [Nat.mul_succ]; omega
      _ ≤ Nat.pow 10 (cs.length + 1) := hdigit

/-- Digits in the same number are in the order of what they are worth. -/
theorem utf8_lt_of_value_lt {cs ds : List Char} (hcs : ∀ c ∈ cs, isDigit c = true)
    (hds : ∀ d ∈ ds, isDigit d = true) (hlen : cs.length = ds.length)
    (h : value cs < value ds) : utf8 cs < utf8 ds := by
  induction cs generalizing ds with
  | nil =>
    obtain rfl := List.length_eq_zero_iff.1 hlen.symm
    exact absurd h (Nat.lt_irrefl _)
  | cons c cs ih =>
    cases ds with
    | nil => cases hlen
    | cons d ds =>
      rw [List.forall_mem_cons] at hcs hds
      have hlen := Nat.succ.inj hlen
      have hc := digitValue_lt hcs.1
      have hd := digitValue_lt hds.1
      rw [utf8_cons, utf8_cons, utf8EncodeChar_of_isDigit hcs.1, utf8EncodeChar_of_isDigit hds.1]
      rw [value_cons, value_cons, hlen] at h
      refine List.cons_lt_cons_iff.2 ?_
      rcases Nat.lt_trichotomy (digitValue c) (digitValue d) with hlt | heq | hgt
      · left
        rw [UInt8.lt_iff_toNat_lt, UInt8.toNat_ofNat', UInt8.toNat_ofNat']
        omega
      · right
        rw [heq] at h ⊢
        exact ⟨rfl, ih hcs.2 hds.2 hlen (Nat.lt_of_add_lt_add_left h)⟩
      · -- the greater first digit is worth more than all that follow
        have hrest := value_lt hds.2
        have hworth : Nat.pow 10 ds.length * (digitValue d + 1) ≤
            Nat.pow 10 ds.length * digitValue c := Nat.mul_le_mul_left _ hgt
        rw [Nat.mul_succ] at hworth
        omega

/-! ### Padding -/

theorem value_padded (width n : Nat) : value (padded width n) = n := by
  have h : value (padded width n) = Nat.ofDigitChars 10 (padded width n) 0 := rfl
  rw [h, padded, Nat.ofDigitChars_append, Nat.ofDigitChars_replicate_zero, Nat.mul_zero]
  exact value_digits n

theorem padded_injective (width : Nat) : Function.Injective (padded width) :=
  Function.LeftInverse.injective (value_padded width)

variable {width m n : Nat}

theorem length_padded (h : (digits n).length ≤ width) : (padded width n).length = width := by
  rw [padded, List.length_append, List.length_replicate, Nat.sub_add_cancel h]

theorem length_utf8_padded (h : (digits n).length ≤ width) :
    (utf8 (padded width n)).length = width :=
  (length_utf8 fun _ => isDigit_of_mem_padded).trans (length_padded h)

/-- Numerals that fit a width are in the order of their values. -/
theorem padded_lt (h : m < n) (hm : (digits m).length ≤ width) (hn : (digits n).length ≤ width) :
    utf8 (padded width m) < utf8 (padded width n) := by
  apply utf8_lt_of_value_lt
  · exact fun _ => isDigit_of_mem_padded
  · exact fun _ => isDigit_of_mem_padded
  · rw [length_padded hm, length_padded hn]
  · rwa [value_padded, value_padded]

/-- So are texts that begin with them. -/
theorem padded_append_lt (h : m < n) (hm : (digits m).length ≤ width)
    (hn : (digits n).length ≤ width) (cs ds : List Char) :
    utf8 (padded width m ++ cs) < utf8 (padded width n ++ ds) := by
  rw [utf8_append, utf8_append]
  refine append_lt_append (padded_lt h hm hn) ?_ _ _
  rw [length_utf8_padded hm, length_utf8_padded hn]

end Numeral
end BattlePilot
