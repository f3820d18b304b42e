import BattlePilot.Battle.Play

/-!
Semi and full auto: turning automation on, with the other kind to fall back on, and letting it
give way to a turn block.
-/

namespace BattlePilot.Play

variable (cfg : Settings)

/-- Changes of the mode are noted. -/
def setAutoMode (mode : AutoMode) : Play Unit := do
  let before := (← get).state.autoMode
  if before ≠ mode then
    modifyState fun s => { s with autoMode := mode }
    record (.autoModeChanged before mode)

/-- The semi auto control shows once an attack has been started. -/
def trySemiAfterAttack : Play Bool := do
  press cfg "attack"
  findAndClick cfg "semi_auto" 5

def tryFull : Play AutoMode := do
  if ← findAndClick cfg "full_auto" usualTries then return .fullAuto
  else if ← trySemiAfterAttack cfg then return .semiAuto
  else return .manual

def trySemi : Play AutoMode := do
  if (← find cfg "semi_auto_enabled" 1).isSome then return .semiAuto
  else if ← trySemiAfterAttack cfg then return .semiAuto
  else if ← findAndClick cfg "full_auto" usualTries then return .fullAuto
  else return .manual

/-- Turns automation on, unless some kind of it is on already. -/
def enableAuto (kind : AutoKind) : Play Unit := do
  if (← get).state.autoMode.isActive then return
  else
    modifyState fun s => { s with suspendedAuto := none }
    let mode ← match kind with
      | .full => tryFull cfg
      | .semi => trySemi cfg
    if mode = .manual then setback .autoUnavailable
    setAutoMode mode

/-- The control that shows while automation is on. -/
def enabledControl : AutoKind → String
  | .full => "full_auto_enabled"
  | .semi => "semi_auto_enabled"

/-- Takes the turn from automation and remembers its kind. -/
def suspendAuto : Play Unit := do
  match (← get).state.autoMode.kind? with
  | none => return
  | some kind =>
    press cfg (enabledControl kind)
    modifyState fun s => { s with suspendedAuto := some kind }
    setAutoMode .manual

/-- Gives the turn back to automation that was suspended. -/
def resumeAuto : Play Unit := do
  match (← get).state.suspendedAuto with
  | none => return
  | some kind =>
    modifyState fun s => { s with suspendedAuto := none }
    enableAuto cfg kind

end BattlePilot.Play
