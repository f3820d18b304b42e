import BattlePilot.Proofs.Number.Seconds
import BattlePilot.Script.CommandText
import BattlePilot.Script.Parser

/-! Canonical spelling. A line in canonical spelling has its numbers as they stand in the texts of
commands, and nothing between its dots has been left empty. -/

namespace BattlePilot

/-- A number as it is written in the text of a span, whole numbers included; any other text is kept
as it is. -/
def Span.respell (cs : List Char) : List Char :=
  match ofLiteral? cs with
  | some d => d.text
  | none => cs

theorem Span.respell_of_ofLiteral? {cs : List Char} {d : Span} (h : ofLiteral? cs = some d) :
    respell cs = d.text := by
  rw [respell, h]

theorem Span.respell_of_spells {cs : List Char} {n : Nat} (h : Numeral.Spells cs n)
    (hn : n < Binary64.wholeLimit) : respell cs = Numeral.digits n := by
  have hsize : n < UInt64.size := Nat.lt_trans hn (by decide)
  have htoNat : (UInt64.ofNat n).toNat = n := Nat.mod_eq_of_lt hsize
  rw [← htoNat] at h hn ⊢
  rw [respell_of_ofLiteral? (ofLiteral?_of_spells h hn), text_ofSeconds hn]

namespace Script

def isLetter (c : Char) : Bool :=
  'a' ≤ c && c ≤ 'z'

theorem isLetter_of_isDigit {c : Char} (h : Numeral.isDigit c = true) : isLetter c = false := by
  simp only [Numeral.isDigit, Bool.and_eq_true, decide_eq_true_eq] at h
  refine Bool.eq_false_iff.2 fun hletter => ?_
  simp only [isLetter, Bool.and_eq_true, decide_eq_true_eq] at hletter
  have hle : 'a'.val ≤ '9'.val := UInt32.le_trans hletter.1 h.2
  exact absurd hle (by decide)

/-- What follows the word of a link, with the number in canonical spelling. -/
def respellNumber : List Char → List Char
  | '(' :: body =>
    if body.getLast? = some ')' then '(' :: Span.respell body.dropLast ++ [')'] else '(' :: body
  | number => Span.respell number

theorem respellNumber_nil : respellNumber [] = [] := rfl

/-- A link with its number, in parentheses or right after the word, in canonical spelling. -/
def respellLink (link : List Char) : List Char :=
  link.takeWhile isLetter ++ respellNumber (link.dropWhile isLetter)

/-- A line in canonical spelling. A turn marker is no chain, its number ends at the colon. -/
def respellLine (text : List Char) : List Char :=
  match after? "turn" text with
  | some rest =>
    "turn".toList ++ Span.respell (rest.takeWhile (· != ':')) ++ rest.dropWhile (· != ':')
  | none => ['.'].intercalate ((splitChain text).map respellLink)

section
variable {word : String} (hword : word.toList.all isLetter = true)
include hword

theorem respellLink_append {tail : List Char}
    (htail : ∀ c, tail.head? = some c → isLetter c = false) :
    respellLink (word.toList ++ tail) = word.toList ++ respellNumber tail := by
  have hletters := List.all_eq_true.1 hword
  rw [respellLink, List.takeWhile_append_of_pos hletters, List.dropWhile_append_of_pos hletters]
  cases tail with
  | nil => rw [List.takeWhile_nil, List.dropWhile_nil, List.append_nil]
  | cons c rest =>
    have hc : ¬ isLetter c = true := by simp [htail c rfl]
    rw [List.takeWhile_cons_of_neg hc, List.dropWhile_cons_of_neg hc, List.append_nil]

theorem respellLink_word : respellLink word.toList = word.toList := by
  have := @respellLink_append word hword [] nofun
  rwa [respellNumber_nil, List.append_nil] at this

theorem respellLink_callText (argument : List Char) :
    respellLink (callText word argument) = callText word (Span.respell argument) := by
  have hparen : ∀ c, ('(' :: (argument ++ [')'])).head? = some c → isLetter c = false := by
    rintro c ⟨⟩
    decide
  have hlink := respellLink_append hword hparen
  rw [respellNumber, if_pos List.getLast?_concat, List.dropLast_concat] at hlink
  simpa only [callText, List.append_assoc, List.cons_append] using hlink

theorem respellLink_numeral {numeral : List Char} {n : Nat} (h : Numeral.Spells numeral n) :
    respellLink (word.toList ++ numeral) = word.toList ++ Span.respell numeral := by
  obtain ⟨c, rest, rfl, hc⟩ := h.head
  have hletter : isLetter c = false := by
    rcases hc with rfl | hc
    · decide
    · exact isLetter_of_isDigit hc
  have hparen : c ≠ '(' := by
    rintro rfl
    rcases hc with hc | hc <;> cases hc
  have hnumber : respellNumber (c :: rest) = Span.respell (c :: rest) := by
    unfold respellNumber
    split
    · next heq => exact absurd (List.cons.inj heq).1 hparen
    · rfl
  rw [respellLink_append hword (by rintro d ⟨⟩; exact hletter), hnumber]

end

end Script
end BattlePilot
