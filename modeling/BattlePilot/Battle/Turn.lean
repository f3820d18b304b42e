import BattlePilot.Battle.Automation
import BattlePilot.Battle.Ending
import BattlePilot.Battle.Recovery

/-!
Turns: submitting them or watching automation play them, counting them, and reaching the turn
that a marker names.
-/

namespace BattlePilot.Play

variable (cfg : Settings)

/-- Closes a dialog that covers the screen, by the button at its corner. -/
def dismissDialogs : Play Unit := do
  let dialog ← match ← look "dialog_lyria" with
    | some position => pure (some position)
    | none => look "dialog_vyrn"
  match dialog with
  | some position => send (.click "dialog" (← beside position ⟨180, -51⟩))
  | none => return

/-- Whether the screen is ready for a turn or for the next battle. -/
def seesTurn : Play Bool := do
  if (← look "attack").isSome then return true
  else return (← look "next").isSome

/-- Waits until a turn has been resolved, looking `tries` times. Every other time dialogs are
closed and the party is looked after; the battle may end meanwhile, or be left. -/
def waitForAttack : (tries : Nat) → Play Bool
  | 0 => pure false
  | tries + 1 => do
    if ← either (return (← get).state.retreated) seesTurn then return true
    else if ← onlyIf ((tries + 1) % 2 == 0) (do
        dismissDialogs
        discard (wipeCheck cfg)
        either (sees "battle_concluded") (sees "exp_gained")) then return true
    else
      wait cfg.retry.pollInterval
      waitForAttack tries

/-- Looks for the turn being resolved. -/
def resolveTries : Nat := 10

/-- Watches automation play a turn, for so many looks: the screen has to leave the input of a turn
(`left`) and come back to it. -/
def awaitAutoTurn : (looks : Nat) → (left : Bool) → Play Bool
  | 0, _ => pure false
  | looks + 1, left => do
    check cfg
    let ready ← seesTurn
    if ready && left then return true
    else
      if !ready then
        dismissDialogs
        discard (wipeCheck cfg)
      wait cfg.retry.pollInterval
      awaitAutoTurn looks (left || !ready)

/-- Looks for a turn that automation plays. -/
def autoTurnLooks : Nat := 60

def submitTurn : Play Unit := do
  discard (findAndClick cfg "attack" 10)
  settleAttack cfg
  reloadAfterAttack cfg

/-- Counts the turn being played. -/
def finishTurn : Play Unit := do
  let turn ← currentTurn
  record (.turnEnded turn)
  if turn + 1 < Turn.limit then modifyState fun s => { s with currentTurn := turn + 1 }
  else throw .overflow

/-- Goes on to the next battle where the game offers it. -/
def pressNext : Play Unit := do
  if ← findAndClick cfg "next" 1 then wait (.ofSeconds 3)

/-- Brings a turn to its end, by hand (`submit`) or by watching automation; a turn that automation
leaves alone is submitted by hand. -/
def closeTurn (submit : Bool) : Play Unit := do
  if submit then submitTurn cfg
  else if !(← awaitAutoTurn cfg autoTurnLooks false) then submitTurn cfg
  discard (waitForAttack cfg resolveTries)
  finishTurn
  check cfg
  pressNext cfg

/-- Whether no automation plays. -/
def isByHand : Play Bool := return !(← get).state.autoMode.isActive

/-- Ends the turn of a block; automation that gave way to the block plays it. -/
def endTurn : Play Unit := do
  resumeAuto cfg
  closeTurn cfg (← isByHand)

/-- Ends turns until the one before which `left` turns are missing. Automation gives way before
the last of them. -/
def fastForward : (left : Nat) → Play Unit
  | 0 => return
  | left + 1 => do
    if left == 0 then suspendAuto cfg
    dismissDialogs
    closeTurn cfg (← isByHand)
    fastForward left

/-- Opens the block of a turn. A marker of a later turn is reached by ending turns, one of an
earlier turn opens no block. -/
def enterTurn (marker : Nat) : Play Unit := do
  dismissDialogs
  resumeAuto cfg
  let current ← currentTurn
  match cfg.strategy.turnSync with
  | .sequential =>
    modifyState fun s => { s with targetTurn := current }
    record (.turnStarted current)
  | .strict =>
    modifyState fun s => { s with targetTurn := marker }
    if marker < current then record (.markerSkipped marker current)
    else
      fastForward cfg (marker - current)
      record (.turnStarted (← currentTurn))

end BattlePilot.Play
