import BattlePilot.Script.Command
import BattlePilot.Time.Span

/-!
What the pilot knows of a battle, and how a battle ends.
-/

namespace BattlePilot

inductive Outcome where
  | retreated
  | timeExceeded
  | noLoot
  | battleConcluded
  | expGained
  | lootCollected
  deriving DecidableEq, Repr

namespace Outcome

/-- Whether there is a reward to collect. -/
def isSuccess : Outcome → Bool
  | battleConcluded | expGained | lootCollected => true
  | _ => false

def text : Outcome → String
  | retreated => "retreated"
  | timeExceeded => "time exceeded"
  | noLoot => "no loot"
  | battleConcluded => "battle concluded"
  | expGained => "exp gained"
  | lootCollected => "loot collected"

end Outcome

/-- Who plays the turns. -/
inductive AutoMode where
  | manual
  | semiAuto
  | fullAuto
  deriving DecidableEq, Repr

namespace AutoMode

def isActive : AutoMode → Bool
  | manual => false
  | _ => true

def kind? : AutoMode → Option AutoKind
  | manual => none
  | semiAuto => some .semi
  | fullAuto => some .full

def ofKind : AutoKind → AutoMode
  | .semi => semiAuto
  | .full => fullAuto

theorem isActive_eq_isSome_kind? (mode : AutoMode) : mode.isActive = mode.kind?.isSome := by
  cases mode <;> rfl

end AutoMode

/-- Turns count from one and fit 32 bits. -/
def Turn.limit : Nat := UInt32.size

structure BattleState where
  currentTurn : Nat
  /-- The turn whose block is being read. -/
  targetTurn : Nat
  autoMode : AutoMode
  /-- Automation that gave way to a turn block and is owed again. -/
  suspendedAuto : Option AutoKind
  /-- Attack by hand once the script has run out. -/
  attacksOn : Bool
  /-- The battle has been left. -/
  retreated : Bool
  outcome : Option Outcome
  startedAt : Span
  deriving DecidableEq, Repr

namespace BattleState

def start (startedAt : Span) : BattleState where
  currentTurn := 1
  targetTurn := 1
  autoMode := .manual
  suspendedAuto := none
  attacksOn := false
  retreated := false
  outcome := none
  startedAt

/-- Whether the turn being played is the one whose block is being read. -/
def inSync (s : BattleState) : Bool :=
  s.currentTurn == s.targetTurn

end BattleState
end BattlePilot
