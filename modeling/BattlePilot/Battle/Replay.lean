import BattlePilot.Battle.Event

/-!
Replaying a battle from its events: the turn, the mode and the number of commands that they tell.
-/

namespace BattlePilot

structure Replay where
  turn : Nat
  mode : AutoMode
  dispatched : Nat
  /-- How the battle ended; nothing happens after that. -/
  outcome : Option Outcome
  deriving DecidableEq, Repr

namespace Replay

def start : Replay := ⟨1, .manual, 0, none⟩

/-- The replay after one more event, if the event can follow. -/
def step? (r : Replay) (e : Event) : Option Replay :=
  if r.outcome.isSome then none
  else
    match e with
    | .turnStarted turn | .reloaded turn _ | .partyWiped turn _ | .recovered turn _ =>
      if turn = r.turn then some r else none
    | .turnEnded turn => if turn = r.turn then some { r with turn := turn + 1 } else none
    | .dispatched turn _ =>
      if turn = r.turn then some { r with dispatched := r.dispatched + 1 } else none
    | .autoModeChanged before after =>
      if before = r.mode ∧ before.isActive ≠ after.isActive then some { r with mode := after }
      else none
    | .markerSkipped marker current =>
      if current = r.turn ∧ marker < r.turn then some r else none
    | .ended turn outcome =>
      if turn = r.turn then some { r with outcome := some outcome } else none

/-- The replay of some events in a row. -/
def ofEvents? (events : List Event) : Option Replay :=
  events.foldlM step? start

end Replay
end BattlePilot
