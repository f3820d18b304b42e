import BattlePilot.Battle.State
import BattlePilot.Script.CommandJson

/-!
The state of a battle in JSON.
-/

namespace BattlePilot

def Outcome.names : List (String × Outcome) :=
  [("retreated", .retreated), ("timeExceeded", .timeExceeded), ("noLoot", .noLoot),
    ("battleConcluded", .battleConcluded), ("expGained", .expGained),
    ("lootCollected", .lootCollected)]

def AutoMode.names : List (String × AutoMode) :=
  [("manual", .manual), ("semiAuto", .semiAuto), ("fullAuto", .fullAuto)]

namespace Json

def ofOutcome : Outcome → Json := nameIn Outcome.names

def ofAutoMode : AutoMode → Json := nameIn AutoMode.names

def ofState (s : BattleState) : Json :=
  .obj [("currentTurn", .nat s.currentTurn), ("targetTurn", .nat s.targetTurn),
    ("autoMode", ofAutoMode s.autoMode),
    ("suspendedAuto", ofOption ofAutoKind s.suspendedAuto),
    ("manualAttackLoop", .bool s.attacksOn), ("retreated", .bool s.retreated),
    ("outcome", ofOption ofOutcome s.outcome),
    ("startedAt", ofSpan s.startedAt)]

end Json
end BattlePilot
