import BattlePilot.Screen.Basic

/-!
Operations on a screen as values: what is asked of it, and what it answers.
-/

namespace BattlePilot

inductive ScreenOp where
  | find (name : String)
  | confirm (name : String)
  | findAll (name : String)
  | waitVanish (name : String) (timeout : Span)
  | input (i : Input)
  | sleep (span : Span)
  | hide (name : String)
  deriving DecidableEq, Repr

inductive ScreenAnswer where
  | nothing
  | position (found : Option Point)
  | positions (found : List Point)
  | truth (b : Bool)
  deriving DecidableEq, Repr

namespace Screen

/-- The answer to an operation and the screen after it; nothing if a number overflows. -/
def perform? (s : Screen) : ScreenOp → Option (ScreenAnswer × Screen)
  | .find name => let (found, s) := s.find name; some (.position found, s)
  | .confirm name => let (seen, s) := s.confirm name; some (.truth seen, s)
  | .findAll name => let (found, s) := s.findAll name; some (.positions found, s)
  | .waitVanish name timeout =>
    (s.waitVanish? name timeout).map fun (gone, s) => (.truth gone, s)
  | .input i => (s.receive? i).map (.nothing, ·)
  | .sleep d => (s.sleep? d).map (.nothing, ·)
  | .hide name => some (.nothing, s.hide name)

/-- The screen after some operations in a row. -/
def performAll? (s : Screen) (ops : List ScreenOp) : Option Screen :=
  ops.foldlM (fun s op => (s.perform? op).map (·.2)) s

end Screen
end BattlePilot
