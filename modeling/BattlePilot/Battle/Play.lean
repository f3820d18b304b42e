import BattlePilot.Battle.Event
import BattlePilot.Settings.Rules

/-!
A battle in progress, and what can be done in it: looking at the screen, once or with patience,
sending input, waiting, and noting what happens.
-/

namespace BattlePilot

structure Battle where
  screen : Screen
  state : BattleState
  /-- Where the attack button is; slots lie around it. -/
  anchor : Point
  journal : Journal
  /-- How many commands have been dispatched. -/
  dispatched : Nat
  deriving DecidableEq, Repr

/-- Why a course of play stops. -/
inductive Halt where
  | ended (outcome : Outcome)
  /-- A coordinate, a clock or a counter left its range. -/
  | overflow
  /-- The rounds allowed for playing on are used up. -/
  | unfinished
  deriving DecidableEq, Repr

/-- A course of play: it changes the battle, and gives a value or stops. -/
abbrev Play := ExceptT Halt (StateM Battle)

namespace Play

/-! ### The screen -/

/-- Asks something of the screen and notes it, unless a number overflows. -/
def perform (op : ScreenOp) : Play ScreenAnswer := do
  let b ← get
  match b.screen.perform? op with
  | some (answer, screen) =>
    set { b with screen, journal := .call screen.now op answer :: b.journal }
    return answer
  | none => throw .overflow

def look (name : String) : Play (Option Point) := do
  match ← perform (.find name) with
  | .position found => return found
  | _ => return none

def sees (name : String) : Play Bool := do
  match ← perform (.confirm name) with
  | .truth seen => return seen
  | _ => return false

def lookAll (name : String) : Play (List Point) := do
  match ← perform (.findAll name) with
  | .positions found => return found
  | _ => return []

/-- Whether `name` vanished in time. -/
def waitVanish (name : String) (timeout : Span) : Play Bool := do
  match ← perform (.waitVanish name timeout) with
  | .truth gone => return gone
  | _ => return false

def send (input : Input) : Play Unit := discard (perform (.input input))

def sleep (d : Span) : Play Unit := discard (perform (.sleep d))

/-- Sleeps, unless there is no time to sleep. -/
def wait (d : Span) : Play Unit :=
  if d.isZero then pure () else sleep d

def scroll (position : Point) (amount : Int) : Play Unit := send (.scroll position amount)

/-! ### Notes -/

def record (e : Event) : Play Unit :=
  modify fun b => { b with journal := .event e :: b.journal }

def currentTurn : Play Nat := return (← get).state.currentTurn

def setback (s : Setback) : Play Unit := do
  record (.recovered (← currentTurn) s)

def modifyState (f : BattleState → BattleState) : Play Unit :=
  modify fun b => { b with state := f b.state }

/-- Time since the start of the battle. -/
def elapsed (b : Battle) : Span :=
  b.screen.now.sub b.state.startedAt

/-! ### Asking one thing after another -/

/-- The answer of `m`, which is asked only under a condition. -/
def onlyIf (condition : Bool) (m : Play Bool) : Play Bool :=
  if condition then m else pure false

/-- Whether one of two holds; the second is asked only if the first does not. -/
def either (first second : Play Bool) : Play Bool := do
  if ← first then pure true else second

/-! ### Patience -/

/-- Usual number of looks. -/
def usualTries : Nat := 5

section

variable (cfg : Settings)

/-- Looks once, and up to `more` times again after the poll interval. -/
def findWithin (name : String) : (more : Nat) → Play (Option Point)
  | 0 => look name
  | more + 1 => do
    match ← look name with
    | some position => return some position
    | none =>
      sleep cfg.retry.pollInterval
      findWithin name more

/-- Looks `tries` times, once at least. -/
def find (name : String) (tries : Nat) : Play (Option Point) :=
  findWithin cfg name (tries - 1)

def confirmWithin (name : String) : (more : Nat) → Play Bool
  | 0 => sees name
  | more + 1 => do
    if ← sees name then return true
    else
      sleep cfg.retry.pollInterval
      confirmWithin name more

def confirm (name : String) (tries : Nat) : Play Bool :=
  confirmWithin cfg name (tries - 1)

/-- Clicks an element if it is found. -/
def findAndClick (name : String) (tries : Nat) : Play Bool := do
  match ← find cfg name tries with
  | some position =>
    send (.click name position)
    return true
  | none => return false

/-- Clicks an element if it is there in the usual number of looks. -/
def press (name : String) : Play Unit :=
  discard (findAndClick cfg name usualTries)

end

/-! ### Slots -/

/-- A position beside another one. -/
def beside (position : Point) (offset : Offset) : Play Point :=
  match position.offset? offset with
  | some p => pure p
  | none => throw .overflow

/-- The label of a numbered slot. -/
def slotLabel (kind : String) (slot : UInt8) : String :=
  kind ++ Numeral.text slot.toNat

def clickSlot (kind : String) (slot : UInt8) (offset : Offset) : Play Unit := do
  send (.click (slotLabel kind slot) (← beside (← get).anchor offset))

def doubleClickSlot (kind : String) (slot : UInt8) (offset : Offset) : Play Unit := do
  send (.doubleClick (slotLabel kind slot) (← beside (← get).anchor offset))

end Play
end BattlePilot
