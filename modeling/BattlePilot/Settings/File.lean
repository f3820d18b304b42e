import BattlePilot.Screen.PointFile
import BattlePilot.Settings.Validation
import BattlePilot.Text.Blank
import BattlePilot.Text.File
import BattlePilot.Yaml.Reader

/-!
Settings files.
-/

namespace BattlePilot

namespace FarmingMode

def names : List (String × FarmingMode) :=
  [("quest", quest), ("special", special), ("coop", coop), ("raid", raid), ("event", event),
    ("guildWars", guildWars), ("dreadBarrage", dreadBarrage),
    ("provingGrounds", provingGrounds), ("rotb", rotb), ("xenoClash", xenoClash),
    ("arcarum", arcarum)]

end FarmingMode

def TurnSync.names : List (String × TurnSync) :=
  [("strict", .strict), ("sequential", .sequential)]

def ReloadPolicy.names : List (String × ReloadPolicy) :=
  [("auto", .auto), ("always", .always), ("never", .never)]

namespace Yaml.Node

def raidSettings (node : Node) : Decode RaidSettings := do
  let fields ← node.fields ["enableAutoExit", "timeAllowedSecs"]
  let usual : RaidSettings := {}
  return {
    autoExit := ← fields.get "enableAutoExit" usual.autoExit bool
    timeAllowedSecs := ← fields.get "timeAllowedSecs" usual.timeAllowedSecs uint64 }

def retrySettings (node : Node) : Decode RetrySettings := do
  let fields ← node.fields ["pollIntervalMs", "anchorTries", "stallTimeoutSecs",
    "maxStallWaits", "reloadWaitSecs", "autoPollSecs"]
  let usual : RetrySettings := {}
  return {
    pollIntervalMs := ← fields.get "pollIntervalMs" usual.pollIntervalMs uint64
    anchorTries := ← fields.get "anchorTries" usual.anchorTries uint32
    stallTimeoutSecs := ← fields.get "stallTimeoutSecs" usual.stallTimeoutSecs uint64
    maxStallWaits := ← fields.get "maxStallWaits" usual.maxStallWaits uint32
    reloadWaitSecs := ← fields.get "reloadWaitSecs" usual.reloadWaitSecs uint64
    autoPollSecs := ← fields.get "autoPollSecs" usual.autoPollSecs uint64 }

def strategy (node : Node) : Decode Strategy := do
  let fields ← node.fields ["turnSync", "reloadAfterAttack"]
  return {
    turnSync := ← fields.get "turnSync" .strict (name TurnSync.names)
    reloadAfterAttack := ← fields.get "reloadAfterAttack" .auto (name ReloadPolicy.names) }

def layout (node : Node) : Decode Layout := do
  let fields ← node.fields ["characters", "skills", "summons", "allyTargets", "enemies"]
  let usual : Layout := {}
  return {
    characters := ← fields.get "characters" usual.characters (list offset)
    skills := ← fields.get "skills" usual.skills (list offset)
    summons := ← fields.get "summons" usual.summons (list offset)
    allyTargets := ← fields.get "allyTargets" usual.allyTargets (list offset)
    enemies := ← fields.get "enemies" usual.enemies (list offset) }

def settings (node : Node) : Decode Settings := do
  let fields ← node.fields ["farmingMode", "missionName", "mapName", "raid", "retry",
    "idleAfterSkillSecs", "idleAfterSummonSecs", "enableAutoQuickSummon", "strategy", "layout",
    "combatScript", "nightmareScript"]
  let usual : Settings := {}
  return {
    farmingMode := ← fields.get "farmingMode" usual.farmingMode (name FarmingMode.names)
    missionName := ← fields.get "missionName" usual.missionName string
    mapName := ← fields.get "mapName" usual.mapName string
    raid := ← fields.get "raid" usual.raid raidSettings
    retry := ← fields.get "retry" usual.retry retrySettings
    idleAfterSkillSecs :=
      ← fields.get "idleAfterSkillSecs" usual.idleAfterSkillSecs number
    idleAfterSummonSecs :=
      ← fields.get "idleAfterSummonSecs" usual.idleAfterSummonSecs number
    quickSummonFirst := ← fields.get "enableAutoQuickSummon" usual.quickSummonFirst bool
    strategy := ← fields.get "strategy" usual.strategy strategy
    layout := ← fields.get "layout" usual.layout layout
    script := ← fields.get "combatScript" usual.script (list string)
    nightmareScript := ← fields.get "nightmareScript" usual.nightmareScript (list string) }

end Yaml.Node

namespace Settings

/-- The settings of a document, not yet checked. -/
def read? (text : String) : Option Settings :=
  (Yaml.Document.ofText? text).bind (·.decode? Yaml.Node.settings)

/-- The settings of a text; a blank one has the defaults. -/
def ofText (text : String) : Except (DocumentError SettingsError) Settings :=
  if text.toList.all isBlank then .ok {}
  else
    match read? text with
    | none => .error .malformed
    | some settings => (settings.validate.map fun _ => settings).mapError .invalid

/-- The settings of a file; where there is none, the defaults. -/
def load : Except FileError String → Except (DocumentError SettingsError) Settings
  | .ok text => ofText text
  | .error .notFound | .error .notDirectory => .ok {}
  | .error fault => .error (.file fault)

end Settings
end BattlePilot
