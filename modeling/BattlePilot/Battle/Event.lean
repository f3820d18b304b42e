import BattlePilot.Battle.State
import BattlePilot.Screen.Operation

/-!
The journal of a battle: what was asked of the screen and what happened, in one sequence.
-/

namespace BattlePilot

inductive ReloadReason where
  | stall
  | afterAttack
  | script
  deriving DecidableEq, Repr

/-- How a battle is left when the party has fallen. -/
inductive WipeExit where
  | retreat
  | backOut
  | leaveRoom
  deriving DecidableEq, Repr

/-- What the screen refused, and the battle went on. -/
inductive Setback where
  | skillSealed (character skill : UInt8)
  | targetNotRequested (character skill : UInt8)
  | summonRestricted (slot : UInt8)
  | quickSummonNotReady
  | itemUnavailable (item : Item)
  | itemRejected (item : Item)
  | backupFailed
  | backupOnCooldown
  | autoUnavailable
  | anchorLost
  deriving DecidableEq, Repr

inductive Event where
  /-- The block of a turn is about to run. -/
  | turnStarted (turn : Nat)
  | turnEnded (turn : Nat)
  | dispatched (turn : Nat) (command : Command)
  | autoModeChanged (before after : AutoMode)
  | reloaded (turn : Nat) (reason : ReloadReason)
  | partyWiped (turn : Nat) (response : WipeExit)
  | recovered (turn : Nat) (setback : Setback)
  /-- A marker of a turn that has passed. -/
  | markerSkipped (marker current : Nat)
  | ended (turn : Nat) (outcome : Outcome)
  deriving DecidableEq, Repr

inductive Entry where
  /-- An operation on the screen, its answer, and the clock after it. -/
  | call (clock : Span) (op : ScreenOp) (answer : ScreenAnswer)
  | event (e : Event)
  deriving DecidableEq, Repr

/-- The newest entry first. -/
abbrev Journal := List Entry

namespace Entry

def event? : Entry → Option Event
  | event e => some e
  | call .. => none

/-- An input and the clock when it came. -/
def input? : Entry → Option (Span × Input)
  | call clock (.input i) _ => some (clock, i)
  | _ => none

def call? : Entry → Option (Span × ScreenOp × ScreenAnswer)
  | call clock op answer => some (clock, op, answer)
  | event _ => none

end Entry

namespace Journal

/-- The events, the oldest first. -/
def events (j : Journal) : List Event :=
  j.reverse.filterMap Entry.event?

/-- The inputs, the oldest first. -/
def inputs (j : Journal) : List (Span × Input) :=
  j.reverse.filterMap Entry.input?

/-- The operations on the screen, the oldest first. -/
def calls (j : Journal) : List (Span × ScreenOp × ScreenAnswer) :=
  j.reverse.filterMap Entry.call?

@[simp] theorem events_event (e : Event) (j : Journal) :
    events (.event e :: j) = events j ++ [e] := by
  simp [events, Entry.event?]

@[simp] theorem events_call (clock : Span) (op : ScreenOp) (answer : ScreenAnswer) (j : Journal) :
    events (.call clock op answer :: j) = events j := by
  simp [events, Entry.event?]

end Journal
end BattlePilot
