import BattlePilot.Battle.Skills

/-!
Summons, by slot and by the quick button, and what follows them.
-/

namespace BattlePilot.Play

variable (cfg : Settings)

/-- What follows a summon; an attack ends the turn, and what comes after it is abandoned. -/
def runFollowUps : List FollowUp → Play Unit
  | [] => pure ()
  | .wait d :: rest => do
    wait d
    runFollowUps rest
  | .attack :: _ => endTurn cfg

/-- Confirms a summon, if the game lets it be confirmed. -/
def confirmSummon (slot : UInt8) : Play Unit := do
  if ← confirm cfg "summon_details" usualTries then
    if ← findAndClick cfg "ok" usualTries then return
    else
      setback (.summonRestricted slot)
      press cfg "cancel"
  else setback (.summonRestricted slot)

def runSummon (slot : UInt8) (after : List FollowUp) : Play Unit :=
  match cfg.layout.summon? slot with
  | none => pure ()
  | some offset => do
    press cfg "summon"
    doubleClickSlot "summon" slot offset
    confirmSummon cfg slot
    discard (findAndClick cfg "back" 1)
    idle cfg.idleAfterSummon
    runFollowUps cfg after

/-- The quick button shows in one of two forms when it is ready. -/
def pressQuickSummon : Play Bool :=
  either (findAndClick cfg "quick_summon1" usualTries)
    (findAndClick cfg "quick_summon2" usualTries)

def runQuickSummon (after : List FollowUp) : Play Unit := do
  if (← look "quick_summon_not_ready").isSome then setback .quickSummonNotReady
  else if ← pressQuickSummon cfg then pure ()
  else setback .quickSummonNotReady
  runFollowUps cfg after

end BattlePilot.Play
