import BattlePilot.Screen.Basic
import BattlePilot.Screen.PointJson

/-!
Scenarios and inputs in JSON; the times of rules are left out, as they are no integers.
-/

namespace BattlePilot.Json

def ofTable (f : α → Json) (table : List (String × α)) : Json :=
  .obj (table.map fun (name, a) => (name, f a))

/-- A field that is left out if there is nothing in it. -/
def optionalField (name : String) (f : α → Json) : Option α → List (String × Json)
  | none => []
  | some a => [(name, f a)]

def ofRule (r : Rule) : Json :=
  .obj (optionalField "onClick" .str r.onClick ++
    optionalField "nth" (fun n => .nat n.toNat) r.nth ++
    [("repeat", .bool r.repeats), ("show", list .str r.shows), ("hide", list .str r.hides)])

def ofScenario (s : Scenario) : Json :=
  .obj [("visible", list .str s.visible), ("positions", ofTable ofPoint s.positions),
    ("matches", ofTable nat s.copies), ("rules", list ofRule s.rules)]

def inputFields : Input → List (String × Json)
  | .click label position =>
    [("action", .str "click"), ("label", .str label), ("at", ofPoint position)]
  | .doubleClick label position =>
    [("action", .str "doubleClick"), ("label", .str label), ("at", ofPoint position)]
  | .scroll position amount =>
    [("action", .str "scroll"), ("at", ofPoint position), ("amount", .int amount)]
  | .home => [("action", .str "home")]

def ofInput (i : Input) : Json :=
  .obj (inputFields i)

end BattlePilot.Json
