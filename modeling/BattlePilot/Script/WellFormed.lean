import BattlePilot.Script.CommandText
import BattlePilot.Script.Parser

/-!
Well-formed commands: slots within their limits, items with a target exactly when they need one,
and waits whose text reads back.
-/

namespace BattlePilot

/-- Whether a slot number is one of the first `limit`. -/
def Slot.Among (limit : Nat) (n : UInt8) : Prop := 1 ≤ n.toNat ∧ n.toNat ≤ limit

/-- Whether the text of a span is read back as the same span, without a remark. -/
def Span.ReadsBack (d : Span) : Prop := Script.waitSpan [] d.text = .ok (.some d)

def SkillOp.WellFormed : SkillOp → Prop
  | useSkill n => Slot.Among Slot.skills n
  | target n => Slot.Among Slot.allies n
  | wait d => d.ReadsBack
  | attack => True

def FollowUp.WellFormed : FollowUp → Prop
  | wait d => d.ReadsBack
  | attack => True

def Command.WellFormed : Command → Prop
  | turn n => 0 < n.toNat
  | character slot ops => Slot.Among Slot.characters slot ∧ ∀ op ∈ ops, op.WellFormed
  | summon slot after => Slot.Among Slot.summons slot ∧ ∀ op ∈ after, op.WellFormed
  | quickSummon after => ∀ op ∈ after, op.WellFormed
  | item i none => i.needsTarget = false
  | item i (some slot) => i.needsTarget = true ∧ Slot.Among Slot.characters slot
  | targetEnemy n => Slot.Among Slot.enemies n
  | wait d => d.ReadsBack
  | _ => True

end BattlePilot
