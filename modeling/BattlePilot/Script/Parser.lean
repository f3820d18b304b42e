import BattlePilot.Number.Literal
import BattlePilot.Script.Chain
import BattlePilot.Script.Command
import BattlePilot.Script.Line
import BattlePilot.Script.Warning

/-!
Reading a script. Every line is read on its own, to at most one command and some warnings; only a
bad turn marker, or a wait that no span can hold, ends the reading.
-/

namespace BattlePilot

structure Script where
  commands : List Command
  warnings : List Warning
  deriving DecidableEq, Repr

namespace Script

/-- What a piece of a line gives, if anything, and the remarks on it. -/
structure Reading (α : Type) where
  value : Option α
  remarks : List Remark
  deriving DecidableEq, Repr

namespace Reading

def some (a : α) : Reading α := ⟨.some a, []⟩

/-- Nothing but a remark. -/
def none (text : List Char) (reason : Warning.Reason) : Reading α := ⟨.none, [⟨text, reason⟩]⟩

def map (f : α → β) (r : Reading α) : Reading β := ⟨r.value.map f, r.remarks⟩

/-- The readings of several pieces, in order. -/
def all (rs : List (Reading α)) : Reading (List α) :=
  ⟨.some (rs.filterMap (·.value)), rs.flatMap (·.remarks)⟩

end Reading

/-- What follows a word. -/
def after? (word : String) (cs : List Char) : Option (List Char) :=
  if word.toList.isPrefixOf cs then .some (cs.drop word.length) else .none

/-- The argument of a call of `name`. -/
def argument? (name : String) (link : List Char) : Option (List Char) := do
  let rest ← after? name link
  match rest with
  | '(' :: body => if body.getLast? = .some ')' then .some body.dropLast else .none
  | _ => .none

/-- A slot number of at most `limit`. -/
def slot? (limit : Nat) (cs : List Char) : Option UInt8 := do
  let n ← Numeral.read? UInt8.size cs
  if 1 ≤ n ∧ n ≤ limit then .some (UInt8.ofNat n) else .none

/-- A slot number, or a remark on `text`. -/
def slot (limit : Nat) (text : List Char) (reason : Warning.Reason) (argument : List Char) :
    Reading UInt8 :=
  match slot? limit argument with
  | .some n => .some n
  | .none => .none text reason

/-- The span of a wait whose argument cannot be read. -/
def defaultWait : Span := Span.ofSeconds 1

/-- The wait of a span; without a span it is too long. -/
def waitOf : Option Span → Except ScriptError (Reading Span)
  | .some d => .ok (.some d)
  | .none => .error .waitTooLong

/-- The span of a wait; one second, with a remark on `text`, if the argument is no number of
seconds from zero on. -/
def waitSpan (text argument : List Char) : Except ScriptError (Reading Span) :=
  match (Literal.read? argument).bind Binary64.nonNegative? with
  | .none => .ok ⟨defaultWait, [⟨text, .malformedWait⟩]⟩
  | .some units => waitOf (Span.ofMagnitude? units)

/-- A link of a character chain. -/
def skillOp (link : List Char) : Except ScriptError (Reading SkillOp) :=
  if link = "attack".toList then .ok (.some .attack)
  else if let .some a := argument? "useskill" link then
    .ok ((slot Slot.skills link .skillIndex a).map .useSkill)
  else if let .some a := argument? "target" link then
    .ok ((slot Slot.allies link .skillTarget a).map .target)
  else if let .some a := argument? "wait" link then
    (waitSpan link a).map (·.map .wait)
  else .ok (.none link .unknownLink)

/-- A link after a summon. -/
def followUp (link : List Char) : Except ScriptError (Reading FollowUp) :=
  if link = "attack".toList then .ok (.some .attack)
  else if let .some a := argument? "wait" link then
    (waitSpan link a).map (·.map .wait)
  else .ok (.none link .notAfterSummon)

/-- An item and the links after it, where `text` is the whole line. -/
def itemUse (text : List Char) (item : Item) (links : List (List Char)) : Reading Command :=
  if item.needsTarget then
    match links.head?.bind (argument? "target") |>.bind (slot? Slot.characters) with
    | .some n => ⟨.some (.item item n), links.tail.map (⟨·, .itemTargetOnly⟩)⟩
    | .none => .none text .itemNeedsTarget
  else ⟨.some (.item item .none), links.map (⟨·, .itemAlone⟩)⟩

/-- A chain with first link `head`. -/
def chain (text head : List Char) (links : List (List Char)) :
    Except ScriptError (Reading Command) :=
  if let .some a := after? "character" head then
    match slot? Slot.characters a with
    | .some n => do return (Reading.all (← links.mapM skillOp)).map (.character n)
    | .none => .ok (.none text .characterSlot)
  else if let .some a := argument? "summon" head then
    match slot? Slot.summons a with
    | .some n => do return (Reading.all (← links.mapM followUp)).map (.summon n)
    | .none => .ok (.none text .summonSlot)
  else if head = "quicksummon".toList then do
    return (Reading.all (← links.mapM followUp)).map .quickSummon
  else if let .some item := Item.ofKeyword? (String.ofList head) then
    .ok (itemUse text item links)
  else if let .some a := argument? "targetenemy" head then
    let alone := if links = [] then [] else [⟨text, .enemyAlone⟩]
    let enemy := slot Slot.enemies text .enemySlot a
    .ok ⟨enemy.value.map .targetEnemy, alone ++ enemy.remarks⟩
  else if let (.some a, []) := (argument? "wait" head, links) then
    (waitSpan head a).map (·.map .wait)
  else .ok (.none text .unrecognized)

/-- The commands that are one word. -/
def words : List (String × Command) :=
  [("end", .endTurn), ("exit", .exit), ("enablesemiauto", .enableAuto .semi),
    ("enablefullauto", .enableAuto .full), ("requestbackup", .requestBackup false),
    ("tweetbackup", .requestBackup true), ("attack", .byHand .attack),
    ("attackback", .byHand .attackAndBack), ("back", .byHand .back),
    ("reload", .byHand .reload), ("repeatmanualattackandreload", .repeatAttack)]

def word? (text : List Char) : Option Command :=
  (words.find? (·.1.toList == text)).map (·.2)

/-- The number of a turn marker, where `rest` follows the word. -/
def turnNumber? (rest : List Char) : Option UInt32 := do
  let n ← Numeral.read? UInt32.size (rest.takeWhile (· != ':'))
  if 0 < n then .some (UInt32.ofNat n) else .none

/-- A line in normal form. A chain without links gives nothing, and no remark either. -/
def normalLine (number : Nat) (text : List Char) : Except ScriptError (Reading Command) :=
  if let .some rest := after? "turn" text then
    match turnNumber? rest with
    | .some n => .ok (.some (.turn n))
    | .none => .error (.invalidTurn number (String.ofList text))
  else if let .some command := word? text then .ok (.some command)
  else
    match splitChain text with
    | [] => .ok ⟨.none, []⟩
    | head :: links => chain text head links

/-- Line `number` of a script. -/
def line (number : Nat) (raw : String) : Except ScriptError Script := do
  let reading ← normalLine number (normalForm raw.toList)
  return ⟨reading.value.toList,
    reading.remarks.map fun r => ⟨number, String.ofList r.text, r.reason⟩⟩

def append (a b : Script) : Script :=
  ⟨a.commands ++ b.commands, a.warnings ++ b.warnings⟩

/-- Lines, the first of which has the given number. -/
def parseFrom (number : Nat) : List String → Except ScriptError Script
  | [] => .ok ⟨[], []⟩
  | raw :: rest => do return (← line number raw).append (← parseFrom (number + 1) rest)

def parse (lines : List String) : Except ScriptError Script :=
  parseFrom 1 lines

end Script
end BattlePilot
