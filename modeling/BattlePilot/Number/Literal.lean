import BattlePilot.Number.Numeral
import BattlePilot.Number.Binary64

/-!
Decimal literals: an optional sign, digits with at most one point among or around them, and an
optional exponent; or one of the words for infinity and for no number, in any letter case.
-/

namespace BattlePilot

/-- `coefficient · 10 ^ exponent`. -/
structure Decimal where
  coefficient : Nat
  exponent : Int
  deriving DecidableEq, Repr

namespace Decimal

/-- How many digits the coefficient has. -/
def width (d : Decimal) : Nat :=
  (Numeral.digits d.coefficient).length

/-- The nearest number. Magnitudes of more than 310 places before the point are infinite, those
with more than 330 zeros after it vanish, whatever the digits. -/
def toBinary64 (negative : Bool) (d : Decimal) : Binary64 :=
  if d.coefficient = 0 then .finite negative 0
  else if d.width + d.exponent > 310 then .infinite negative
  else if d.width + d.exponent < -330 then .finite negative 0
  else if 0 ≤ d.exponent then .ofQuotient negative (d.coefficient * Nat.pow 10 d.exponent.toNat) 1
  else .ofQuotient negative d.coefficient (Nat.pow 10 (-d.exponent).toNat)

end Decimal

namespace Literal

/-- An optional sign and what follows it. -/
def sign : List Char → Bool × List Char
  | '-' :: rest => (true, rest)
  | '+' :: rest => (false, rest)
  | rest => (false, rest)

/-- The exponent part, empty or `e`, an optional sign and digits to the end. -/
def exponent? : List Char → Option Int
  | [] => some 0
  | e :: rest =>
    if e = 'e' ∨ e = 'E' then
      let (negative, ds) := sign rest
      if ds ≠ [] ∧ ds.all Numeral.isDigit then
        some (if negative then -Numeral.value ds else Numeral.value ds)
      else none
    else none

/-- Digits, point, digits and exponent; there is a digit on one side of the point at least. -/
def decimal? (cs : List Char) : Option Decimal :=
  let whole := cs.takeWhile Numeral.isDigit
  let rest := cs.dropWhile Numeral.isDigit
  let (fraction, rest) := match rest with
    | '.' :: after => (after.takeWhile Numeral.isDigit, after.dropWhile Numeral.isDigit)
    | _ => ([], rest)
  if whole = [] ∧ fraction = [] then none
  else (exponent? rest).map fun e => ⟨Numeral.value (whole ++ fraction), e - fraction.length⟩

/-- The number that a text spells. -/
def read? (cs : List Char) : Option Binary64 :=
  let (negative, body) := sign cs
  let word := body.map Char.toLower
  if word = "inf".toList ∨ word = "infinity".toList then some (.infinite negative)
  else if word = "nan".toList then some .nan
  else (decimal? body).map (Decimal.toBinary64 negative)

end Literal
end BattlePilot
