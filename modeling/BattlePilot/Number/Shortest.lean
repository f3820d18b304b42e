import BattlePilot.Number.Numeral
import BattlePilot.Number.Binary64

/-!
The decimal text of a magnitude: the fewest places after the point that read back as the same
magnitude, written without an exponent.
-/

namespace BattlePilot.Binary64

/-- Whether `coefficient / 10 ^ places` rounds to `units`. -/
def readsBack (units coefficient places : Nat) : Bool :=
  nearestUnits (coefficient * one) (Nat.pow 10 places) == units

/-- The neighbours of a magnitude with `places` places, the nearer one first; of a tie, the upper
one. -/
def neighbours (units places : Nat) : List Nat :=
  let scaled := units * Nat.pow 10 places
  let low := scaled / one
  if 2 * (scaled % one) < one then [low, low + 1] else [low + 1, low]

/-- The nearest neighbour with `places` places that reads back. -/
def atPlaces? (units places : Nat) : Option Nat :=
  (neighbours units places).find? (readsBack units · places)

/-- The coefficient and the places of the first neighbour that reads back with fewer places than
`last`; the magnitude with `last` places if there is none. -/
def shortestWithin (units last : Nat) : Nat × Nat :=
  let found := (List.range last).findSome? fun places => (atPlaces? units places).map (·, places)
  found.getD (units * Nat.pow 10 last / one, last)

/-- `coefficient / 10 ^ places`, with exactly `places` digits after the point. -/
def fixedText (coefficient places : Nat) : List Char :=
  let whole := Numeral.digits (coefficient / Nat.pow 10 places)
  if places = 0 then whole
  else whole ++ '.' :: Numeral.padded places (coefficient % Nat.pow 10 places)

/-- The coefficient and the places of the shortest decimal. A magnitude has 1074 places at most, and
with all of them it is written exactly. -/
def shortest (units : Nat) : Nat × Nat :=
  shortestWithin units 1074

/-- The shortest text of a magnitude. -/
def shortestText (units : Nat) : List Char :=
  fixedText (shortest units).1 (shortest units).2

/-- The text with `places` places, the exact value rounded with a half going to the even digit. -/
def roundedText (units places : Nat) : List Char :=
  fixedText (roundQuotient (units * Nat.pow 10 places) one) places

end BattlePilot.Binary64
