import BattlePilot.Battle.Turn

/-!
Character chains: skills with their targets, pauses, and an attack that ends the turn early.
-/

namespace BattlePilot.Play

variable (cfg : Settings)

/-- Pauses as the settings ask for it. -/
def idle : Settings.Pause → Play Unit
  | .none => pure ()
  | .span d => wait d
  | .tooLong => throw .overflow

def useSkill (skill : UInt8) : Play Unit :=
  match cfg.layout.skill? skill with
  | some offset => clickSlot "skill" skill offset
  | none => pure ()

/-- Picks an ally at the prompt that asks for one. -/
def selectAlly (ally : UInt8) : Play Unit :=
  match cfg.layout.ally? ally with
  | none => pure ()
  | some offset => do
    match ← find cfg "select_a_character" usualTries with
    | some prompt => send (.click (slotLabel "ally" ally) (← beside prompt offset))
    | none => return

/-- Notes a skill that cannot be used, and closes what says so. -/
def skipSealed (slot skill : UInt8) : Play Unit := do
  if ← confirm cfg "skill_unusable" 2 then
    setback (.skillSealed slot skill)
    press cfg "cancel"

/-- The operations of a chain, where `last` is the skill used before them. A target belongs to the
skill right before it, and only if that skill asks for one. -/
def runOps (slot : UInt8) : (last : UInt8) → List SkillOp → Play Unit
  | _, [] => press cfg "back"
  | _, .useSkill skill :: .target ally :: rest => do
    useSkill cfg skill
    if ← confirm cfg "use_skill" 2 then
      selectAlly cfg ally
      idle cfg.idleAfterSkill
      runOps slot skill rest
    else
      skipSealed cfg slot skill
      idle cfg.idleAfterSkill
      runOps slot skill (.target ally :: rest)
  | _, .useSkill skill :: rest => do
    useSkill cfg skill
    skipSealed cfg slot skill
    idle cfg.idleAfterSkill
    runOps slot skill rest
  | last, .target _ :: rest => do
    setback (.targetNotRequested slot last)
    runOps slot last rest
  | last, .wait d :: rest => do
    wait d
    runOps slot last rest
  | _, .attack :: _ => do
    press cfg "back"
    endTurn cfg

/-- Opens a character and runs its chain. -/
def runCharacter (slot : UInt8) (ops : List SkillOp) : Play Unit :=
  match cfg.layout.character? slot with
  | none => pure ()
  | some offset => do
    doubleClickSlot "character" slot offset
    runOps cfg slot 0 ops

end BattlePilot.Play
