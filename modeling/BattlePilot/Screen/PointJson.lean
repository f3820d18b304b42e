import BattlePilot.Json.Basic
import BattlePilot.Screen.Point

/-!
Positions in JSON.
-/

namespace BattlePilot.Json

def ofPoint (p : Point) : Json :=
  .obj [("x", .int p.x), ("y", .int p.y)]

def ofOffset (o : Offset) : Json :=
  .obj [("dx", .int o.dx), ("dy", .int o.dy)]

end BattlePilot.Json
