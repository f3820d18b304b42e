import BattlePilot.Battle.Fight
import BattlePilot.Battle.StateJson

/-!
Scripts, events and reports in JSON.
-/

namespace BattlePilot.Json

def ofWarning (w : Warning) : Json :=
  .obj [("line", .nat w.line), ("text", .str w.text), ("reason", .str w.reason.message)]

def ofScript (s : Script) : Json :=
  .obj [("commands", list ofCommand s.commands), ("warnings", list ofWarning s.warnings)]

def ofReloadReason : ReloadReason → Json
  | .stall => .str "stall"
  | .afterAttack => .str "afterAttack"
  | .script => .str "script"

def ofWipeExit : WipeExit → Json
  | .retreat => .str "retreat"
  | .backOut => .str "backOut"
  | .leaveRoom => .str "leaveRoom"

/-- A setback is told by its kind, with the slots or the item concerned. -/
def ofSetback : Setback → Json
  | .skillSealed character skill =>
    .obj [("kind", .str "skillSealed"), ("character", ofUInt8 character),
      ("skill", ofUInt8 skill)]
  | .targetNotRequested character skill =>
    .obj [("kind", .str "targetNotRequested"), ("character", ofUInt8 character),
      ("skill", ofUInt8 skill)]
  | .summonRestricted slot => .obj [("kind", .str "summonRestricted"), ("slot", ofUInt8 slot)]
  | .quickSummonNotReady => .obj [("kind", .str "quickSummonNotReady")]
  | .itemUnavailable item => .obj [("kind", .str "itemUnavailable"), ("item", ofItem item)]
  | .itemRejected item => .obj [("kind", .str "itemRejected"), ("item", ofItem item)]
  | .backupFailed => .obj [("kind", .str "backupFailed")]
  | .backupOnCooldown => .obj [("kind", .str "backupOnCooldown")]
  | .autoUnavailable => .obj [("kind", .str "autoUnavailable")]
  | .anchorLost => .obj [("kind", .str "anchorLost")]

def ofEvent : Event → Json
  | .turnStarted turn => .obj [("event", .str "turnStarted"), ("turn", .nat turn)]
  | .turnEnded turn => .obj [("event", .str "turnEnded"), ("turn", .nat turn)]
  | .dispatched turn command =>
    .obj [("event", .str "dispatched"), ("turn", .nat turn), ("command", ofCommand command)]
  | .autoModeChanged before after =>
    .obj [("event", .str "autoModeChanged"), ("from", ofAutoMode before),
      ("to", ofAutoMode after)]
  | .reloaded turn reason =>
    .obj [("event", .str "reloaded"), ("turn", .nat turn), ("reason", ofReloadReason reason)]
  | .partyWiped turn response =>
    .obj [("event", .str "partyWiped"), ("turn", .nat turn), ("response", ofWipeExit response)]
  | .recovered turn setback =>
    .obj [("event", .str "recovered"), ("turn", .nat turn), ("condition", ofSetback setback)]
  | .markerSkipped marker current =>
    .obj [("event", .str "markerSkipped"), ("marker", .nat marker), ("current", .nat current)]
  | .ended turn outcome =>
    .obj [("event", .str "ended"), ("turn", .nat turn), ("outcome", ofOutcome outcome)]

def ofReport (r : Report) : Json :=
  .obj [("outcome", ofOutcome r.outcome), ("turnsCompleted", .nat r.turnsCompleted),
    ("commandsDispatched", .nat r.commandsDispatched), ("autoMode", ofAutoMode r.autoMode),
    ("elapsed", ofSpan r.elapsed), ("warnings", list ofWarning r.warnings),
    ("events", list ofEvent r.events)]

end BattlePilot.Json
