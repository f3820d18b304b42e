import BattlePilot.Script.Command

/-!
The canonical script text of a command.
-/

namespace BattlePilot

/-- `name(argument)`. -/
def callText (name : String) (argument : List Char) : List Char :=
  name.toList ++ '(' :: argument ++ [')']

namespace SkillOp

def chars : SkillOp → List Char
  | useSkill n => callText "useskill" (Numeral.digits n.toNat)
  | target n => callText "target" (Numeral.digits n.toNat)
  | wait d => callText "wait" d.text
  | attack => "attack".toList

end SkillOp

namespace FollowUp

def chars : FollowUp → List Char
  | wait d => callText "wait" d.text
  | attack => "attack".toList

end FollowUp

namespace Command

/-- The links of a chain, each after a dot. -/
def links (texts : List (List Char)) : List Char :=
  texts.flatMap ('.' :: ·)

def chars : Command → List Char
  | turn n => "turn ".toList ++ Numeral.digits n.toNat ++ [':']
  | endTurn => "end".toList
  | character slot ops =>
    "character".toList ++ Numeral.digits slot.toNat ++ links (ops.map SkillOp.chars)
  | summon slot after =>
    callText "summon" (Numeral.digits slot.toNat) ++ links (after.map FollowUp.chars)
  | quickSummon after => "quicksummon".toList ++ links (after.map FollowUp.chars)
  | item i none => i.keyword.toList
  | item i (some slot) =>
    i.keyword.toList ++ links [callText "target" (Numeral.digits slot.toNat)]
  | targetEnemy n => callText "targetenemy" (Numeral.digits n.toNat)
  | enableAuto .semi => "enablesemiauto".toList
  | enableAuto .full => "enablefullauto".toList
  | requestBackup false => "requestbackup".toList
  | requestBackup true => "tweetbackup".toList
  | wait d => callText "wait" d.text
  | byHand .attack => "attack".toList
  | byHand .attackAndBack => "attackback".toList
  | byHand .back => "back".toList
  | byHand .reload => "reload".toList
  | repeatAttack => "repeatmanualattackandreload".toList
  | exit => "exit".toList

def text (c : Command) : String :=
  String.ofList c.chars

end Command
end BattlePilot
