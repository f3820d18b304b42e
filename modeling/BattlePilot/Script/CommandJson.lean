import BattlePilot.Script.Command
import BattlePilot.Json.Read

/-!
Commands in JSON.
-/

namespace BattlePilot

def AutoKind.names : List (String × AutoKind) :=
  [("semi", .semi), ("full", .full)]

def HandAction.names : List (String × HandAction) :=
  [("attack", .attack), ("attackAndBack", .attackAndBack), ("back", .back), ("reload", .reload)]

def Item.names : List (String × Item) :=
  [("greenPotion", .greenPotion), ("bluePotion", .bluePotion), ("fullElixir", .fullElixir),
    ("supportPotion", .supportPotion), ("clarityHerb", .clarityHerb),
    ("revivalPotion", .revivalPotion)]

namespace Json

def ofAutoKind : AutoKind → Json := nameIn AutoKind.names

def ofHandAction : HandAction → Json := nameIn HandAction.names

def ofItem : Item → Json := nameIn Item.names

def ofUInt8 (n : UInt8) : Json := .nat n.toNat

def ofSkillOp : SkillOp → Json
  | .useSkill n => .tagged "useSkill" (ofUInt8 n)
  | .target n => .tagged "target" (ofUInt8 n)
  | .wait d => .tagged "wait" (ofSpan d)
  | .attack => .str "attack"

def ofFollowUp : FollowUp → Json
  | .wait d => .tagged "wait" (ofSpan d)
  | .attack => .str "attack"

def ofCommand : Command → Json
  | .turn n => .tagged "turn" (.nat n.toNat)
  | .endTurn => .str "endTurn"
  | .character slot ops =>
    .tagged "character" (.obj [("slot", ofUInt8 slot), ("ops", list ofSkillOp ops)])
  | .summon slot after =>
    .tagged "summon" (.obj [("slot", ofUInt8 slot), ("then", list ofFollowUp after)])
  | .quickSummon after => .tagged "quickSummon" (.obj [("then", list ofFollowUp after)])
  | .item i target =>
    .tagged "item" (.obj [("item", ofItem i), ("target", ofOption ofUInt8 target)])
  | .targetEnemy n => .tagged "targetEnemy" (ofUInt8 n)
  | .enableAuto kind => .tagged "enableAuto" (ofAutoKind kind)
  | .requestBackup viaSocial => .tagged "requestBackup" (.obj [("via_social", .bool viaSocial)])
  | .wait d => .tagged "wait" (ofSpan d)
  | .byHand action => .tagged "manual" (ofHandAction action)
  | .repeatAttack => .str "repeatAttackAndReload"
  | .exit => .str "exit"

def readSkillOp? (value : Json) : Option SkillOp := do
  match ← value.choice? with
  | ("useSkill", some n) => return .useSkill (← n.readUInt8?)
  | ("target", some n) => return .target (← n.readUInt8?)
  | ("wait", some d) => return .wait (← d.readSpan?)
  | ("attack", none) | ("attack", some .null) => return .attack
  | _ => none

def readFollowUp? (value : Json) : Option FollowUp := do
  match ← value.choice? with
  | ("wait", some d) => return .wait (← d.readSpan?)
  | ("attack", none) | ("attack", some .null) => return .attack
  | _ => none

/-- The commands that carry something. -/
def readCarrying? (name : String) (value : Json) : Option Command :=
  match name with
  | "turn" => return .turn (← value.readUInt32?)
  | "character" => do
    match ← value.record? ["slot", "ops"] with
    | [some slot, some ops] =>
      return .character (← slot.readUInt8?) (← ops.readList? readSkillOp?)
    | _ => none
  | "summon" => do
    match ← value.record? ["slot", "then"] with
    | [some slot, some after] =>
      return .summon (← slot.readUInt8?) (← after.readList? readFollowUp?)
    | _ => none
  | "quickSummon" => do
    match ← value.record? ["then"] with
    | [some after] => return .quickSummon (← after.readList? readFollowUp?)
    | _ => none
  | "item" => do
    match ← value.record? ["item", "target"] with
    | [some item, target] =>
      return .item (← item.readName? Item.names)
        (← (target.getD .null).readOption? readUInt8?)
    | _ => none
  | "targetEnemy" => return .targetEnemy (← value.readUInt8?)
  | "enableAuto" => return .enableAuto (← value.readName? AutoKind.names)
  | "requestBackup" => do
    match ← value.record? ["via_social"] with
    | [some viaSocial] => return .requestBackup (← viaSocial.readBool?)
    | _ => none
  | "wait" => return .wait (← value.readSpan?)
  | "manual" => return .byHand (← value.readName? HandAction.names)
  | _ => none

def readCommand? (value : Json) : Option Command := do
  match ← value.choice? with
  | ("endTurn", none) | ("endTurn", some .null) => return .endTurn
  | ("repeatAttackAndReload", none) | ("repeatAttackAndReload", some .null) =>
    return .repeatAttack
  | ("exit", none) | ("exit", some .null) => return .exit
  | (name, some carried) => readCarrying? name carried
  | _ => none

end Json
end BattlePilot
