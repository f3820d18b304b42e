import BattlePilot.Time.Span

/-!
Script commands: what one line of a combat script asks for.
-/

namespace BattlePilot

inductive AutoKind where
  | semi
  | full
  deriving DecidableEq, Repr

/-- A turn submitted or skipped by hand. -/
inductive HandAction where
  | attack
  /-- Submit the turn, then press back to cut the animation short. -/
  | attackAndBack
  | back
  /-- Submit the turn, then reload the page. -/
  | reload
  deriving DecidableEq, Repr

inductive Item where
  | greenPotion
  | bluePotion
  | fullElixir
  | supportPotion
  | clarityHerb
  | revivalPotion
  deriving DecidableEq, Repr

/-- A link of a character chain. -/
inductive SkillOp where
  | useSkill (skill : UInt8)
  /-- Picks an ally for the skill before it. -/
  | target (ally : UInt8)
  | wait (span : Span)
  /-- Ends the turn; later links are abandoned. -/
  | attack
  deriving DecidableEq, Repr

/-- What may follow a summon. -/
inductive FollowUp where
  | wait (span : Span)
  | attack
  deriving DecidableEq, Repr

inductive Command where
  /-- Opens the block of a turn. -/
  | turn (number : UInt32)
  | endTurn
  | character (slot : UInt8) (ops : List SkillOp)
  | summon (slot : UInt8) (after : List FollowUp)
  | quickSummon (after : List FollowUp)
  | item (item : Item) (target : Option UInt8)
  | targetEnemy (enemy : UInt8)
  | enableAuto (kind : AutoKind)
  | requestBackup (viaSocial : Bool)
  | wait (span : Span)
  | byHand (action : HandAction)
  /-- Attack by hand until the battle ends, once the script has run out. -/
  | repeatAttack
  /-- Leave the battle without retreating. -/
  | exit
  deriving DecidableEq, Repr

/-- Whether a command opens the block of a turn. -/
def Command.isMarker : Command → Bool
  | turn _ => true
  | _ => false

namespace Item

def all : List Item :=
  [greenPotion, bluePotion, fullElixir, supportPotion, clarityHerb, revivalPotion]

/-- The word for the item in a script, which is also the name of its element on the screen. -/
def keyword : Item → String
  | greenPotion => "usegreenpotion"
  | bluePotion => "usebluepotion"
  | fullElixir => "usefullelixir"
  | supportPotion => "usesupportpotion"
  | clarityHerb => "useclarityherb"
  | revivalPotion => "userevivalpotion"

def ofKeyword? (word : String) : Option Item :=
  all.find? (·.keyword == word)

/-- Whether the item is given to one character. -/
def needsTarget : Item → Bool
  | greenPotion | clarityHerb => true
  | _ => false

end Item

/-! How many slots of each kind a script can name; slots count from one. -/

namespace Slot

def characters : Nat := 4
def skills : Nat := 4
def allies : Nat := 6
def summons : Nat := 6
def enemies : Nat := 3

end Slot

end BattlePilot
