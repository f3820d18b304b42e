import BattlePilot.Battle.Play

/-!
How a battle ends: the screens that end it, the time it may take, and leaving it when the party
has fallen.
-/

namespace BattlePilot.Play

variable (cfg : Settings)

/-- Whether the time for the battle is used up. -/
def timeExceeded (b : Battle) : Bool :=
  match cfg.timeBudget? with
  | some budget => budget.nanos ≤ (elapsed b).nanos
  | none => false

/-- The ending that is in sight, if any. Time comes first, then leaving without loot, and the
screens after that in a fixed order. -/
def classify : Play (Option Outcome) := do
  let b ← get
  if timeExceeded cfg b then return some .timeExceeded
  else if b.state.retreated then return some .noLoot
  else if ← sees "no_loot" then return some .noLoot
  else if ← sees "battle_concluded" then return some .battleConcluded
  else if ← sees "exp_gained" then return some .expGained
  else if ← sees "loot_collected" then return some .lootCollected
  else return none

/-- Ends the battle; the first outcome is kept. -/
def conclude (outcome : Outcome) : Play α := do
  modifyState fun s => { s with outcome := s.outcome.or (some outcome) }
  throw (.ended outcome)

/-- Ends the battle if an ending is in sight. A battle that concluded of itself is dismissed by a
reload. -/
def check : Play Unit := do
  match ← classify cfg with
  | none => return
  | some outcome =>
    if outcome = .battleConcluded then press cfg "reload"
    conclude outcome

/-- Clicks the sign of a fallen party where it was seen. -/
def clickWipe : Option Point → Play Unit
  | some position => send (.click "party_wipe_indicator" position)
  | none => pure ()

/-- Leaves the battle in the first way that is open, where `indicator` is the place of the sign of
a fallen party. -/
def leaveFallen (indicator : Option Point) : Play (Option WipeExit) := do
  if ← onlyIf cfg.retreatsOnWipe (confirm cfg "continue" usualTries) then
    clickWipe indicator
    press cfg "cancel"
    press cfg "retreat_confirmation"
    return some .retreat
  else if cfg.backsOutOnWipe then
    send .home
    return some .backOut
  else if ←
      onlyIf (cfg.farmingMode == .coop) (confirm cfg "salute_participants" usualTries) then
    clickWipe indicator
    press cfg "salute"
    press cfg "ok"
    press cfg "cancel"
    press cfg "leave"
    return some .leaveRoom
  else return none

/-- Whether the party has fallen and the battle was left for that. -/
def wipeCheck : Play Bool := do
  let indicator ← look "party_wipe_indicator"
  if ← either (pure indicator.isSome) (sees "salute_participants") then
    match ← leaveFallen cfg indicator with
    | some response =>
      modifyState fun s => { s with retreated := true }
      record (.partyWiped (← currentTurn) response)
      return true
    | none => return false
  else return false

end BattlePilot.Play
