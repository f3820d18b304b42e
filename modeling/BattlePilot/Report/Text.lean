import BattlePilot.Battle.Fight
import BattlePilot.Script.CommandText

/-!
Scripts and reports as text, one fact a line.
-/

namespace BattlePilot

/-- A value in braces after the name of what it belongs to. -/
def braced (name fields : String) : String :=
  name ++ " \x7b " ++ fields ++ " \x7d"

def AutoMode.describe : AutoMode → String
  | manual => "Manual"
  | semiAuto => "SemiAuto"
  | fullAuto => "FullAuto"

def Item.describe : Item → String
  | greenPotion => "GreenPotion"
  | bluePotion => "BluePotion"
  | fullElixir => "FullElixir"
  | supportPotion => "SupportPotion"
  | clarityHerb => "ClarityHerb"
  | revivalPotion => "RevivalPotion"

def Setback.describe : Setback → String
  | skillSealed character skill =>
    braced "SkillSealed" s!"character: {character.toNat}, skill: {skill.toNat}"
  | targetNotRequested character skill =>
    braced "TargetNotRequested" s!"character: {character.toNat}, skill: {skill.toNat}"
  | summonRestricted slot => braced "SummonRestricted" s!"slot: {slot.toNat}"
  | quickSummonNotReady => "QuickSummonNotReady"
  | itemUnavailable item => braced "ItemUnavailable" s!"item: {item.describe}"
  | itemRejected item => braced "ItemRejected" s!"item: {item.describe}"
  | backupFailed => "BackupFailed"
  | backupOnCooldown => "BackupOnCooldown"
  | autoUnavailable => "AutoUnavailable"
  | anchorLost => "AnchorLost"

/-- Lines with their ends. -/
def unlines (lines : List String) : String :=
  String.join (lines.map (· ++ "\n"))

namespace Script

/-- The canonical texts of the commands, then the warnings. -/
def render (s : Script) : String :=
  unlines (s.commands.map Command.text ++ s.warnings.map Warning.render)

end Script

namespace Report

/-- Seconds are told to one place. -/
def render (r : Report) : String :=
  let verdict := if r.isSuccess then "success" else "failure"
  let elapsed := String.ofList (Binary64.roundedText r.elapsed.magnitude 1)
  unlines ([
    s!"outcome: {r.outcome.text} ({verdict})",
    s!"turns completed: {r.turnsCompleted}",
    s!"commands dispatched: {r.commandsDispatched}",
    s!"auto mode: {r.autoMode.describe}",
    s!"elapsed: {elapsed}s"] ++
    r.setbacks.map (fun setback => s!"recovered: {setback.describe}") ++
    r.warnings.map Warning.render)

end Report
end BattlePilot
