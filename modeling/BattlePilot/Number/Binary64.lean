import BattlePilot.Number.Rounding

/-!
Binary floating-point numbers of 64 bits, exactly. Every finite magnitude is a multiple of the
least positive one, 2⁻¹⁰⁷⁴, and is kept as that multiple, so order and equality of magnitudes
are those of `Nat`.
-/

namespace BattlePilot

inductive Binary64 where
  | finite (negative : Bool) (units : Nat)
  | infinite (negative : Bool)
  | nan
  deriving DecidableEq, Repr

namespace Binary64

/-- How many units make one. -/
def one : Nat := Nat.pow 2 1074

/-- The least power of two that is too large to be finite. -/
def overflow : Nat := Nat.pow 2 1024 * one

/-- The distance of neighbouring magnitudes around `units`: 53 binary digits are kept. -/
def spacing (units : Nat) : Nat :=
  Nat.pow 2 (units.log2 + 1 - 53)

/-- The magnitude nearest to `num / den` units, a half going to the even significand. -/
def nearestUnits (num den : Nat) : Nat :=
  let step := spacing (num / den)
  roundQuotient num (den * step) * step

/-- The number nearest to `num / den`. -/
def ofQuotient (negative : Bool) (num den : Nat) : Binary64 :=
  let units := nearestUnits (num * one) den
  if units < overflow then .finite negative units else .infinite negative

/-- The sum of two magnitudes, rounded. -/
def addUnits (a b : Nat) : Nat :=
  nearestUnits (a + b) 1

def isFinite : Binary64 → Bool
  | .finite .. => true
  | _ => false

/-- The magnitude of a finite number that is not below zero; a negative zero is not. -/
def nonNegative? : Binary64 → Option Nat
  | .finite negative units => if negative && units != 0 then none else some units
  | _ => none

/-- Whether a magnitude is at least as great as the number. -/
def isReachedBy (magnitude : Nat) : Binary64 → Bool
  | .finite negative units => negative || units ≤ magnitude
  | .infinite negative => negative
  | .nan => false

end Binary64
end BattlePilot
