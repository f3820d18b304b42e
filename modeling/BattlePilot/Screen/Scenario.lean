import BattlePilot.Number.Binary64
import BattlePilot.Screen.Point

/-!
Scenarios: what a simulated screen shows at first, where things are, and the rules by which they
come and go.
-/

namespace BattlePilot

/-- A change of what is visible, made by a click or by the clock. -/
structure Rule where
  /-- The label whose clicks count. -/
  onClick : Option String := none
  /-- The click that matters, counted from one. -/
  nth : Option UInt32 := none
  /-- Seconds on the clock. -/
  afterSecs : Option Binary64 := none
  /-- Whether later clicks count too. -/
  repeats : Bool := false
  shows : List String := []
  hides : List String := []
  deriving DecidableEq, Repr

structure Scenario where
  visible : List String := []
  positions : List (String × Point) := []
  /-- How often an element is found, where it is not once. -/
  copies : List (String × Nat) := []
  rules : List Rule := []
  deriving DecidableEq, Repr

inductive ScenarioError where
  | badTime (rule : Nat)
  | notOneTrigger (rule : Nat)
  | nthZero (rule : Nat)
  deriving DecidableEq, Repr

def ScenarioError.message : ScenarioError → String
  | badTime rule =>
    s!"invalid scenario: rule {rule}: afterSecs must be a non-negative number"
  | notOneTrigger rule =>
    s!"invalid scenario: rule {rule}: set exactly one of onClick or afterSecs"
  | nthZero rule => s!"invalid scenario: rule {rule}: nth is one-based"

namespace Rule

/-- The magnitude of the seconds that a clock rule waits for, if there can be so many. -/
def dueAt? (r : Rule) : Option Nat :=
  r.afterSecs.bind Binary64.nonNegative?

/-- What is wrong with rule number `index`. -/
def fault? (index : Nat) (r : Rule) : Option ScenarioError :=
  match r.onClick, r.afterSecs with
  | some _, none => nthFault
  | none, some _ => if r.dueAt?.isSome then nthFault else some (.badTime index)
  | _, _ => some (.notOneTrigger index)
where
  nthFault : Option ScenarioError :=
    if r.nth = some 0 then some (.nthZero index) else none

end Rule

namespace Scenario

/-- The first thing that is wrong with the rules from number `index` on. -/
def faultFrom? (index : Nat) : List Rule → Option ScenarioError
  | [] => none
  | r :: rest => (r.fault? index).or (faultFrom? (index + 1) rest)

def fault? (s : Scenario) : Option ScenarioError :=
  faultFrom? 0 s.rules

end Scenario
end BattlePilot
