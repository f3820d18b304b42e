import BattlePilot.Screen.PointJson
import BattlePilot.Settings.File

/-!
Settings in JSON, apart from the pauses, which are no integers.
-/

namespace BattlePilot.Json

def ofRaid (r : RaidSettings) : Json :=
  .obj [("enableAutoExit", .bool r.autoExit),
    ("timeAllowedSecs", .nat r.timeAllowedSecs.toNat)]

def ofRetry (r : RetrySettings) : Json :=
  .obj [("pollIntervalMs", .nat r.pollIntervalMs.toNat),
    ("anchorTries", .nat r.anchorTries.toNat),
    ("stallTimeoutSecs", .nat r.stallTimeoutSecs.toNat),
    ("maxStallWaits", .nat r.maxStallWaits.toNat),
    ("reloadWaitSecs", .nat r.reloadWaitSecs.toNat),
    ("autoPollSecs", .nat r.autoPollSecs.toNat)]

def ofStrategy (s : Strategy) : Json :=
  .obj [("turnSync", nameIn TurnSync.names s.turnSync),
    ("reloadAfterAttack", nameIn ReloadPolicy.names s.reloadAfterAttack)]

def ofLayout (l : Layout) : Json :=
  .obj [("characters", list ofOffset l.characters), ("skills", list ofOffset l.skills),
    ("summons", list ofOffset l.summons), ("allyTargets", list ofOffset l.allyTargets),
    ("enemies", list ofOffset l.enemies)]

def ofSettings (s : Settings) : Json :=
  .obj [("farmingMode", nameIn FarmingMode.names s.farmingMode),
    ("missionName", .str s.missionName), ("mapName", .str s.mapName), ("raid", ofRaid s.raid),
    ("retry", ofRetry s.retry), ("enableAutoQuickSummon", .bool s.quickSummonFirst),
    ("strategy", ofStrategy s.strategy), ("layout", ofLayout s.layout),
    ("combatScript", list .str s.script), ("nightmareScript", list .str s.nightmareScript)]

end BattlePilot.Json
