import BattlePilot.Battle.Backup
import BattlePilot.Battle.Items
import BattlePilot.Battle.Summons

/-!
Playing the commands of a script one by one.
-/

namespace BattlePilot.Play

variable (cfg : Settings)

def targetEnemy (enemy : UInt8) : Play Unit :=
  match cfg.layout.enemy? enemy with
  | none => pure ()
  | some offset => do
    clickSlot "enemy" enemy offset
    press cfg "set_target"

/-- Turns that are submitted or skipped by hand, and counted if there was something to press. -/
def playByHand : HandAction → Play Unit
  | .attack => do
    if ← findAndClick cfg "attack" 30 then
      settleAttack cfg
      finishTurn
  | .attackAndBack => do
    if ← findAndClick cfg "attack" usualTries then
      settleAttack cfg
      press cfg "home_back"
      discard (waitForAttack cfg resolveTries)
      finishTurn
  | .back => do
    if ← findAndClick cfg "home_back" 1 then
      discard (waitForAttack cfg resolveTries)
      finishTurn
  | .reload => do
    if ← findAndClick cfg "attack" usualTries then
      discard (waitVanish "combat_cancel" (.ofSeconds 10))
      reload cfg .script
      resyncAnchor cfg
      finishTurn

/-- What a command does, apart from turn markers. -/
def act : Command → Play Unit
  | .turn _ => pure ()
  | .endTurn => endTurn cfg
  | .character slot ops => runCharacter cfg slot ops
  | .summon slot after => runSummon cfg slot after
  | .quickSummon after => runQuickSummon cfg after
  | .item item target => useItem cfg item target
  | .targetEnemy enemy => targetEnemy cfg enemy
  | .enableAuto kind => enableAuto cfg kind
  | .requestBackup false => requestBackup cfg
  | .requestBackup true => tweetBackup cfg
  | .wait d => wait d
  | .byHand action => playByHand cfg action
  | .repeatAttack => modifyState fun s => { s with attacksOn := true }
  | .exit => do
    send .home
    modifyState fun s => { s with retreated := true }

/-- Counts and notes a command, plays it, and looks for an ending; a marker opens its block. -/
def dispatch : Command → Play Unit
  | .turn number => enterTurn cfg number.toNat
  | command => do
    record (.dispatched (← currentTurn) command)
    modify fun b => { b with dispatched := b.dispatched + 1 }
    act cfg command
    check cfg

/-- Commands that are played whoever plays the turns, and in any turn. -/
def runsAnywhere : Command → Bool
  | .turn _ | .enableAuto _ | .repeatAttack | .exit => true
  | _ => false

/-- Plays a command, unless automation plays or another turn does. -/
def step (command : Command) : Play Unit := do
  check cfg
  let s := (← get).state
  if runsAnywhere command || (!s.autoMode.isActive && s.inSync) then dispatch cfg command

/-- Plays the commands of a script. -/
def steps : List Command → Play Unit
  | [] => pure ()
  | command :: rest => do
    step cfg command
    steps rest

end BattlePilot.Play
