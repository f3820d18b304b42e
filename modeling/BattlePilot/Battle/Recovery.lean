import BattlePilot.Battle.Play

/-!
After a turn was submitted: waiting until the attack is over, and reloading the page when it
stalls or when the settings ask for it.
-/

namespace BattlePilot.Play

variable (cfg : Settings)

/-- Reloads the page if it can be reloaded, and waits for it. -/
def reload (reason : ReloadReason) : Play Unit := do
  if ← findAndClick cfg "reload" usualTries then
    record (.reloaded (← currentTurn) reason)
  wait cfg.retry.reloadWait

/-- Finds the attack button again. -/
def resyncAnchor : Play Unit := do
  match ← find cfg "attack" 10 with
  | some anchor => modify fun b => { b with anchor }
  | none => setback .anchorLost

/-- Whether an attack is still in progress after so many stall timeouts. -/
def stalls : (waits : Nat) → Play Bool
  | 0 => pure true
  | waits + 1 => do
    if ← waitVanish "combat_cancel" cfg.retry.stallTimeout then return false
    else
      wait (.ofSeconds 1)
      stalls waits

/-- Waits until a submitted attack is over; one that stalls is ended by a reload. -/
def settleAttack : Play Unit := do
  if (← find cfg "combat_cancel" 3).isSome then
    if ← stalls cfg cfg.retry.maxStallWaits.toNat then
      reload cfg .stall
      resyncAnchor cfg

def reloadAfterAttack : Play Unit :=
  if cfg.reloadsAfterAttack then reload cfg .afterAttack else pure ()

end BattlePilot.Play
