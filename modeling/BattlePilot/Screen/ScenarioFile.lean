import BattlePilot.Screen.PointFile
import BattlePilot.Screen.Scenario
import BattlePilot.Text.File
import BattlePilot.Yaml.Reader

/-!
Scenario files.
-/

namespace BattlePilot

namespace Yaml.Node

def rule (node : Node) : Decode Rule := do
  let fields ← node.fields ["onClick", "nth", "afterSecs", "repeat", "show", "hide"]
  return {
    onClick := ← fields.get "onClick" none (option string)
    nth := ← fields.get "nth" none (option uint32)
    afterSecs := ← fields.get "afterSecs" none (option number)
    repeats := ← fields.get "repeat" false bool
    shows := ← fields.get "show" [] (list string)
    hides := ← fields.get "hide" [] (list string) }

def scenario (node : Node) : Decode Scenario := do
  let fields ← node.fields ["visible", "positions", "matches", "rules"]
  return {
    visible := ← fields.get "visible" [] (list string)
    positions := ← fields.get "positions" [] (table point)
    copies := ← fields.get "matches" [] (table (nat UInt64.size))
    rules := ← fields.get "rules" [] (list rule) }

end Yaml.Node

namespace Scenario

def ofText (text : String) : Except (DocumentError ScenarioError) Scenario :=
  match (Yaml.Document.ofText? text).bind (·.decode? Yaml.Node.scenario) with
  | none => .error .malformed
  | some scenario =>
    match scenario.fault? with
    | some fault => .error (.invalid fault)
    | none => .ok scenario

def load : Except FileError String → Except (DocumentError ScenarioError) Scenario
  | .ok text => ofText text
  | .error fault => .error (.file fault)

end Scenario
end BattlePilot
