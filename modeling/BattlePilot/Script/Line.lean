import BattlePilot.Text.Blank
import BattlePilot.Text.Lowercase

/-!
The normal form of a script line: comments and blanks are gone, and every letter is lower case.
-/

namespace BattlePilot.Script

/-- What stands before the first comment mark, `#` or `//`. -/
def beforeComment : List Char → List Char
  | [] => []
  | '#' :: _ => []
  | '/' :: '/' :: _ => []
  | c :: rest => c :: beforeComment rest

def normalForm (raw : List Char) : List Char :=
  ((beforeComment raw).filter (!isBlank ·)).flatMap Lowercase.ofChar

end BattlePilot.Script
