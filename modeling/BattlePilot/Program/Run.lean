import BattlePilot.Program.Arguments
import BattlePilot.Report.Json
import BattlePilot.Report.Text
import BattlePilot.Screen.ScenarioFile
import BattlePilot.Settings.File

/-!
What the program prints, given what reading each file would give.
-/

namespace BattlePilot

/-- The content of the file at a path. -/
abbrev Files := String → Except FileError String

/-- Why a request could not be served. -/
inductive Cause where
  | file (fault : FileError)
  | script (fault : ScriptError)
  | settings (fault : DocumentError SettingsError)
  | scenario (fault : DocumentError ScenarioError)
  | fight (fault : FightError)
  deriving DecidableEq, Repr

/-- What was attempted, and why it failed if there is more to say. -/
structure Failure where
  attempt : String
  cause : Option Cause
  deriving DecidableEq, Repr

def FileError.message : FileError → String
  | notFound => "no such file"
  | isDirectory => "a directory, not a file"
  | notDirectory => "the path leads on from a file"
  | invalidData => "the content is no text"

def DocumentError.message (invalid : ε → String) : DocumentError ε → String
  | file fault => fault.message
  | malformed => "the document does not have the form that is expected"
  | .invalid fault => invalid fault

def Cause.message : Cause → String
  | file fault => fault.message
  | script fault => fault.message
  | settings fault => fault.message SettingsError.message
  | scenario fault => fault.message ScenarioError.message
  | fight fault => fault.message

def Failure.message (f : Failure) : String :=
  match f.cause with
  | some cause => f.attempt ++ ": " ++ cause.message
  | none => f.attempt

namespace Request

/-- The files that a request reads. -/
def paths : Request → List String
  | check script _ => [script]
  | simulate script scenario settings _ _ => script.toList ++ [scenario] ++ settings.toList

/-- Names what was attempted when something fails. -/
def attempting (attempt : String) (cause : ε → Cause) (result : Except ε α) :
    Except Failure α :=
  result.mapError fun fault => ⟨attempt, some (cause fault)⟩

def scriptLines (files : Files) (path : String) : Except Failure (List String) :=
  attempting s!"failed to read script: {path}" .file ((files path).map Text.lines)

def runCheck (files : Files) (path : String) (json : Bool) : Except Failure String := do
  let lines ← scriptLines files path
  let script ← attempting s!"failed to parse script: {path}" .script (Script.parse lines)
  return if json then (Json.ofScript script).pretty ++ "\n" else script.render

/-- The lines to fight by: those of a script file, or else of the settings. -/
def fightLines (files : Files) (script : Option String) (settings : Settings)
    (nightmare : Bool) : Except Failure (List String) := do
  let lines ← match script with
    | some path => scriptLines files path
    | none => pure (Fight.configuredScript settings nightmare)
  if lines = [] then
    throw ⟨"no combat script given and none configured in the settings", none⟩
  return lines

def runSimulate (files : Files) (rounds : Nat) (script : Option String) (scenario : String)
    (settings : Option String) (nightmare json : Bool) : Except Failure String := do
  let settings ← match settings with
    | some path =>
      attempting s!"failed to load settings: {path}" .settings (Settings.load (files path))
    | none => pure {}
  let lines ← fightLines files script settings nightmare
  let scenario ← attempting s!"failed to load scenario: {scenario}" .scenario
    (Scenario.load (files scenario))
  let fight := Fight.run settings rounds lines (.ofScenario scenario)
  let report ← attempting "combat did not start" .fight fight.result
  return if json then (Json.ofReport report).pretty ++ "\n" else report.render

/-- What a request prints, where playing on takes so many rounds at most. -/
def run (files : Files) (rounds : Nat) : Request → Except Failure String
  | check script json => runCheck files script json
  | simulate script scenario settings nightmare json =>
    runSimulate files rounds script scenario settings nightmare json

end Request
end BattlePilot
