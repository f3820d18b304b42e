/-!
The lines of a text file: each ends at a line feed, with one carriage return before it dropped.
-/

namespace BattlePilot.Text

/-- `cs` without one carriage return at its end. -/
def dropReturn (cs : List Char) : List Char :=
  if cs.getLast? = some '\r' then cs.dropLast else cs

/-- Lines of `cs`, where `line` holds what has been read of the first one, backwards. A text
that ends after a line feed has no further line. -/
def linesFrom (line : List Char) : List Char → List String
  | [] => if line = [] then [] else [String.ofList line.reverse]
  | '\n' :: rest => String.ofList (dropReturn line.reverse) :: linesFrom [] rest
  | c :: rest => linesFrom (c :: line) rest

def lines (text : String) : List String :=
  linesFrom [] text.toList

end BattlePilot.Text
