import BattlePilot.Screen.Point
import BattlePilot.Yaml.Decode

/-!
Positions in files.
-/

namespace BattlePilot.Yaml.Node

def coordinate : Node → Decode Int :=
  int Coordinate.least Coordinate.greatest

def point (node : Node) : Decode Point := do
  let fields ← node.fields ["x", "y"]
  return ⟨← fields.need "x" coordinate, ← fields.need "y" coordinate⟩

def offset (node : Node) : Decode Offset := do
  let fields ← node.fields ["dx", "dy"]
  return ⟨← fields.need "dx" coordinate, ← fields.need "dy" coordinate⟩

end BattlePilot.Yaml.Node
