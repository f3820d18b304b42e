import BattlePilot.Battle.Dispatch

/-!
After the last command of a script: the battle is played on, by automation or by attacking, until
it ends. The rounds of this are limited from outside, since a battle need not end.
-/

namespace BattlePilot.Play

variable (cfg : Settings)

/-- Watches automation play. -/
def watchAuto : (rounds : Nat) → Play Empty
  | 0 => throw .unfinished
  | rounds + 1 => do
    check cfg
    pressNext cfg
    discard (wipeCheck cfg)
    wait cfg.retry.autoPoll
    watchAuto rounds

/-- One attack by hand, if the screen is ready for one. -/
def attackOnce : Play Unit := do
  if ← findAndClick cfg "attack" 10 then
    settleAttack cfg
    reloadAfterAttack cfg
    if ← waitForAttack cfg resolveTries then finishTurn
  else discard (wipeCheck cfg)

/-- Attacks turn after turn. -/
def attackOn : (rounds : Nat) → Play Empty
  | 0 => throw .unfinished
  | rounds + 1 => do
    check cfg
    pressNext cfg
    attackOnce cfg
    wait cfg.retry.autoPoll
    attackOn rounds

/-- Hands the battle over to automation, after a quick summon if the settings ask for one. -/
def handOver : Play Unit := do
  resumeAuto cfg
  if !(← get).state.autoMode.isActive then
    if cfg.quickSummonFirst then runQuickSummon cfg []
    enableAuto cfg .full

/-- Plays on after the script. A raid that shows the way to the next battle is over. -/
def playOn (rounds : Nat) : Play Empty := do
  check cfg
  if ← onlyIf (cfg.farmingMode == .raid) (findAndClick cfg "next" 3) then
    conclude .battleConcluded
  else if (← get).state.attacksOn then attackOn cfg rounds
  else
    handOver cfg
    if (← get).state.autoMode.isActive then watchAuto cfg rounds
    else attackOn cfg rounds

end BattlePilot.Play
