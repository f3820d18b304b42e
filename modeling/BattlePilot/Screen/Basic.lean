import BattlePilot.Screen.Scenario
import BattlePilot.Time.Span

/-!
The simulated screen: elements that are visible or not, a clock, and rules that show and hide
elements when clicks come in or time passes. Looking at the screen first applies the rules that
are due; input is kept.
-/

namespace BattlePilot

/-- What the screen receives. -/
inductive Input where
  | click (label : String) (position : Point)
  | doubleClick (label : String) (position : Point)
  | scroll (position : Point) (amount : Int)
  /-- Leaving the page for the home screen. -/
  | home
  deriving DecidableEq, Repr

/-- The label that a click bears. -/
def Input.label? : Input → Option String
  | click label _ | doubleClick label _ => some label
  | _ => none

/-- Whether the clock shows the time that a rule waits for, or a later one. -/
def Rule.hasCome (now : Span) (r : Rule) : Bool :=
  match r.afterSecs with
  | some seconds => seconds.isReachedBy now.magnitude
  | none => false

/-- A rule of the screen, and how often it has been applied. -/
structure ScreenRule where
  rule : Rule
  applied : Nat
  deriving DecidableEq, Repr

structure Screen where
  /-- Names of visible elements; their order means nothing. -/
  visible : List String
  positions : List (String × Point)
  copies : List (String × Nat)
  rules : List ScreenRule
  clicks : List (String × Nat)
  now : Span
  /-- What the screen has received, the newest first. -/
  inputs : List Input
  deriving DecidableEq, Repr

namespace Screen

def isVisible (s : Screen) (name : String) : Bool :=
  s.visible.contains name

/-! ### Rules -/

def hideName (visible : List String) (name : String) : List String :=
  visible.filter (· != name)

def showName (visible : List String) (name : String) : List String :=
  if visible.contains name then visible else name :: visible

/-- What is visible after a rule; hiding comes before showing. -/
def applyRule (visible : List String) (r : Rule) : List String :=
  r.shows.foldl showName (r.hides.foldl hideName visible)

/-- Applies the rules that are due, in order. -/
def applyDue (due : ScreenRule → Bool) : List ScreenRule → List String →
    List ScreenRule × List String
  | [], visible => ([], visible)
  | r :: rest, visible =>
    if due r then
      let (rest, visible) := applyDue due rest (applyRule visible r.rule)
      ({ r with applied := r.applied + 1 } :: rest, visible)
    else
      let (rest, visible) := applyDue due rest visible
      (r :: rest, visible)

def fire (s : Screen) (due : ScreenRule → Bool) : Screen :=
  let (rules, visible) := applyDue due s.rules s.visible
  { s with rules, visible }

/-- Whether a rule that waits for the clock has not been applied though its time has come. -/
def dueByClock (now : Span) (r : ScreenRule) : Bool :=
  r.applied == 0 && r.rule.hasCome now

/-- Whether a rule is due at click number `count` on `label`. -/
def dueByClick (label : String) (count : Nat) (r : ScreenRule) : Bool :=
  r.rule.onClick == some label &&
    match r.rule.nth, r.rule.repeats with
    | some n, false => count == n.toNat
    | some n, true => n.toNat ≤ count
    | none, false => r.applied == 0
    | none, true => true

/-- The screen with every clock rule applied whose time has come. -/
def settle (s : Screen) : Screen :=
  s.fire (dueByClock s.now)

def ofScenario (scenario : Scenario) : Screen :=
  settle {
    visible := scenario.visible.foldl showName []
    positions := scenario.positions
    copies := scenario.copies
    rules := scenario.rules.map (⟨·, 0⟩)
    clicks := []
    now := .zero
    inputs := [] }

/-! ### Clock -/

/-- The screen after some time; nothing if the clock cannot hold it. -/
def sleep? (s : Screen) (d : Span) : Option Screen :=
  (s.now.add? d).map fun now => settle { s with now }

/-! ### Looking -/

/-- Where an element is that has no position of its own. -/
def defaultPosition : Point := ⟨640, 480⟩

def position (s : Screen) (name : String) : Point :=
  (s.positions.lookup name).getD defaultPosition

def find (s : Screen) (name : String) : Option Point × Screen :=
  let s := s.settle
  (if s.isVisible name then some (s.position name) else none, s)

def confirm (s : Screen) (name : String) : Bool × Screen :=
  let s := s.settle
  (s.isVisible name, s)

/-- Distance of the copies of an element, downwards. -/
def copySpacing : Int := 60

/-- The position of copy number `i`; coordinates stop at their greatest value. -/
def copyPosition (origin : Point) (i : Nat) : Point :=
  let down := min (min (i : Int) Coordinate.greatest * copySpacing) Coordinate.greatest
  ⟨origin.x, min (origin.y + down) Coordinate.greatest⟩

def findAll (s : Screen) (name : String) : List Point × Screen :=
  let s := s.settle
  let count := (s.copies.lookup name).getD 1
  (if s.isVisible name then (List.range count).map (copyPosition (s.position name)) else [], s)

/-- Longest time between two looks while an element is to vanish. -/
def vanishStep : Span := .ofSeconds 1

/-- Looks now and after each of at most `steps` steps towards a deadline whether `name` is gone,
and stops when it is. -/
def vanishFrom? (name : String) (deadline : Span) : (steps : Nat) → Screen → Option (Bool × Screen)
  | 0, s =>
    let s := s.settle
    some (!s.isVisible name, s)
  | steps + 1, s =>
    let s := s.settle
    if s.isVisible name then do
      let s ← s.sleep? (vanishStep.min (deadline.sub s.now))
      vanishFrom? name deadline steps s
    else some (true, s)

/-- Waits until an element has vanished, for some time at most. The steps are of one second, the
last one may be shorter. -/
def waitVanish? (s : Screen) (name : String) (timeout : Span) : Option (Bool × Screen) := do
  let deadline ← s.now.add? timeout
  let steps := (timeout.nanos + (vanishStep.nanos - 1)) / vanishStep.nanos
  vanishFrom? name deadline steps s

/-! ### Input -/

def clickCount (s : Screen) (label : String) : Nat :=
  (s.clicks.lookup label).getD 0

/-- Clicks are counted in 32 bits. -/
def clickLimit : Nat := UInt32.size

def setCount (label : String) (count : Nat) : List (String × Nat) → List (String × Nat)
  | [] => [(label, count)]
  | (l, n) :: rest => if l = label then (l, count) :: rest else (l, n) :: setCount label count rest

/-- One more click on a label, and the rules that it makes due. -/
def countClick? (s : Screen) (label : String) : Option Screen :=
  let count := s.clickCount label + 1
  if count < clickLimit then
    some ({ s with clicks := setCount label count s.clicks }.fire (dueByClick label count))
  else none

/-- The screen after an input; nothing if the clicks cannot be counted. Going home leaves only
the home screen visible. -/
def receive? (s : Screen) (input : Input) : Option Screen :=
  let s := { s with inputs := input :: s.inputs }
  match input with
  | .click label _ | .doubleClick label _ => s.countClick? label
  | .scroll .. => some s
  | .home => some { s with visible := ["home"] }

def hide (s : Screen) (name : String) : Screen :=
  { s with visible := hideName s.visible name }

/-- The labels clicked so far, in order. -/
def clickedLabels (s : Screen) : List String :=
  s.inputs.reverse.filterMap Input.label?

def wentHome (s : Screen) : Bool :=
  s.inputs.contains .home

end Screen
end BattlePilot
