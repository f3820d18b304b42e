import BattlePilot.Battle.Takeover
import BattlePilot.Script.Parser
import BattlePilot.Settings.Validation

/-!
A whole fight: settings and script are checked, the attack button is found, the script is played
and then the battle played on; the report tells how it went.
-/

namespace BattlePilot

structure Report where
  outcome : Outcome
  turnsCompleted : Nat
  commandsDispatched : Nat
  autoMode : AutoMode
  elapsed : Span
  warnings : List Warning
  events : List Event
  deriving DecidableEq, Repr

namespace Report

def isSuccess (r : Report) : Bool := r.outcome.isSuccess

/-- What the screen refused, in order. -/
def setbacks (r : Report) : List Setback :=
  r.events.filterMap fun
    | .recovered _ setback => some setback
    | _ => none

end Report

/-- Why there is no report. -/
inductive FightError where
  | settings (fault : SettingsError)
  | script (fault : ScriptError)
  | anchorNotFound (tries : Nat)
  /-- A coordinate, a clock or a counter left its range. -/
  | overflow
  /-- The rounds allowed for playing on are used up. -/
  | unfinished
  deriving DecidableEq, Repr

namespace FightError

def message : FightError → String
  | settings fault => fault.message
  | script fault => "script error: " ++ fault.message
  | anchorNotFound tries => s!"attack button not found after {tries} tries"
  | overflow => "a number left its range"
  | unfinished => "the battle did not end"

end FightError

/-- A fight that is over, however it went. -/
structure Fight where
  result : Except FightError Report
  screen : Screen
  journal : Journal

namespace Play

variable (cfg : Settings)

/-- Finds the attack button; in one mode a popup may lie before it. -/
def findAnchor : Play Bool := do
  if cfg.farmingMode = .arcarum then press cfg "arcarum_popup"
  match ← find cfg "attack" cfg.retry.anchorTries.toNat with
  | some anchor =>
    modify fun b => { b with anchor }
    return true
  | none => return false

/-- Plays a script and then plays on. -/
def drive (rounds : Nat) (commands : List Command) : Play Empty := do
  steps cfg commands
  playOn cfg rounds

end Play

namespace Battle

/-- A battle on a screen, before anything was done. -/
def start (screen : Screen) : Battle where
  screen
  state := .start screen.now
  anchor := ⟨0, 0⟩
  journal := []
  dispatched := 0

/-- The battle with its end noted. -/
def noteEnd (b : Battle) (outcome : Outcome) : Battle :=
  { b with journal := .event (.ended b.state.currentTurn outcome) :: b.journal }

/-- The report of a battle that has ended. -/
def report (b : Battle) (outcome : Outcome) (warnings : List Warning) : Report where
  outcome
  turnsCompleted := b.state.currentTurn - 1
  commandsDispatched := b.dispatched
  autoMode := b.state.autoMode
  elapsed := Play.elapsed b
  warnings
  events := b.journal.events

/-- The fight that a battle stopped in. -/
def stopped (b : Battle) (warnings : List Warning) : Halt → Fight
  | .ended outcome =>
    let b := b.noteEnd outcome
    ⟨.ok (b.report outcome warnings), b.screen, b.journal⟩
  | .overflow => ⟨.error .overflow, b.screen, b.journal⟩
  | .unfinished => ⟨.error .unfinished, b.screen, b.journal⟩

end Battle

namespace Fight

/-- A fight that never began. -/
def refused (screen : Screen) (fault : FightError) : Fight :=
  ⟨.error fault, screen, []⟩

/-- Plays a script that has been read. -/
def ofScript (cfg : Settings) (rounds : Nat) (script : Script) (screen : Screen) : Fight :=
  match (Play.findAnchor cfg).run.run (.start screen) with
  | (.error halt, b) => b.stopped script.warnings halt
  | (.ok false, b) => ⟨.error (.anchorNotFound cfg.retry.anchorTries.toNat), b.screen, b.journal⟩
  | (.ok true, b) =>
    match (Play.drive cfg rounds script.commands).run.run b with
    | (.error halt, b) => b.stopped script.warnings halt
    | (.ok never, _) => nomatch never

/-- Fights on a screen by the lines of a script, where playing on takes so many rounds at
most. -/
def run (cfg : Settings) (rounds : Nat) (lines : List String) (screen : Screen) : Fight :=
  match cfg.fault? with
  | some fault => refused screen (.settings fault)
  | none =>
    match Script.parse lines with
    | .error fault => refused screen (.script fault)
    | .ok script => ofScript cfg rounds script screen

/-- The script that the settings hold for a kind of battle. -/
def configuredScript (cfg : Settings) (nightmare : Bool) : List String :=
  if nightmare then cfg.nightmareScript else cfg.script

/-- Whether the fight brought a reward. -/
def isSuccess (f : Fight) : Bool :=
  match f.result with
  | .ok report => report.isSuccess
  | .error _ => false

end Fight
end BattlePilot
