/-!
What reading a script complains about: warnings, after which reading goes on, and the faults that
end it.
-/

namespace BattlePilot

namespace Warning

/-- Why a line or a link of a chain was passed over or amended. -/
inductive Reason where
  | characterSlot
  | skillIndex
  | skillTarget
  | unknownLink
  | summonSlot
  | notAfterSummon
  | itemAlone
  | itemNeedsTarget
  | itemTargetOnly
  | enemyAlone
  | enemySlot
  | malformedWait
  | unrecognized
  deriving DecidableEq, Repr

def Reason.message : Reason → String
  | characterSlot => "character slot must be 1-4"
  | skillIndex => "skill index must be 1-4"
  | skillTarget => "skill target must be 1-6"
  | unknownLink => "unknown sub-command"
  | summonSlot => "summon slot must be 1-6"
  | notAfterSummon => "only .wait(..) and .attack may follow a summon"
  | itemAlone => "item takes no sub-commands"
  | itemNeedsTarget => "item requires .target(1-4)"
  | itemTargetOnly => "item takes no further sub-commands"
  | enemyAlone => "targetenemy takes no sub-commands"
  | enemySlot => "enemy target must be 1-3"
  | malformedWait => "malformed wait duration, using 1 second"
  | unrecognized => "unrecognized command"

end Warning

/-- A remark on a normal-form text, before it is placed on its line. -/
structure Remark where
  text : List Char
  reason : Warning.Reason
  deriving DecidableEq, Repr

structure Warning where
  /-- Counted from one. -/
  line : Nat
  text : String
  reason : Warning.Reason
  deriving DecidableEq, Repr

namespace Warning

def render (w : Warning) : String :=
  s!"warning: line {w.line}: {w.text} ({w.reason.message})"

end Warning

inductive ScriptError where
  /-- A turn marker without a positive number. -/
  | invalidTurn (line : Nat) (text : String)
  /-- A wait longer than any span. -/
  | waitTooLong
  deriving DecidableEq, Repr

namespace ScriptError

def message : ScriptError → String
  | invalidTurn line text =>
    s!"line {line}: invalid turn marker `{text}` (turn numbers must be positive integers)"
  | waitTooLong => "a wait is too long for the clock"

end ScriptError
end BattlePilot
