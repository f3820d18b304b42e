/-!
Positions on the screen. Coordinates are integers of 32 bits; a sum beyond them is no position.
-/

namespace BattlePilot

def Coordinate.least : Int := -2147483648
def Coordinate.greatest : Int := 2147483647

def Coordinate.isValid (n : Int) : Bool :=
  Coordinate.least ≤ n && n ≤ Coordinate.greatest

structure Point where
  x : Int
  y : Int
  deriving DecidableEq, Repr

structure Offset where
  dx : Int
  dy : Int
  deriving DecidableEq, Repr

/-- The position at an offset, if both coordinates can hold it. -/
def Point.offset? (p : Point) (o : Offset) : Option Point :=
  if Coordinate.isValid (p.x + o.dx) && Coordinate.isValid (p.y + o.dy) then
    some ⟨p.x + o.dx, p.y + o.dy⟩
  else none

end BattlePilot
