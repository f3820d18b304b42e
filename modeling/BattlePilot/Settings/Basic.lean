import BattlePilot.Screen.Point
import BattlePilot.Time.Span

/-!
How a battle is to be played: where it takes place, how long to wait for things, where the slots
lie on the screen, and which scripts to use.
-/

namespace BattlePilot

inductive FarmingMode where
  | quest
  | special
  | coop
  | raid
  | event
  | guildWars
  | dreadBarrage
  | provingGrounds
  | rotb
  | xenoClash
  | arcarum
  deriving DecidableEq, Repr

structure RaidSettings where
  /-- Leave a raid once its time is up. -/
  autoExit : Bool := false
  timeAllowedSecs : UInt64 := 1800
  deriving DecidableEq, Repr

structure RetrySettings where
  /-- Between two looks at the screen. -/
  pollIntervalMs : UInt64 := 500
  /-- Looks for the attack button before a battle. -/
  anchorTries : UInt32 := 50
  /-- How long an attack may stay in progress before it is looked at again. -/
  stallTimeoutSecs : UInt64 := 5
  /-- How often an attack is given that time before the page is reloaded. -/
  maxStallWaits : UInt32 := 3
  reloadWaitSecs : UInt64 := 3
  /-- Between two looks while automation plays. -/
  autoPollSecs : UInt64 := 1
  deriving DecidableEq, Repr

namespace RetrySettings

def pollInterval (r : RetrySettings) : Span := .ofMillis r.pollIntervalMs
def stallTimeout (r : RetrySettings) : Span := .ofSeconds r.stallTimeoutSecs
def reloadWait (r : RetrySettings) : Span := .ofSeconds r.reloadWaitSecs
def autoPoll (r : RetrySettings) : Span := .ofSeconds r.autoPollSecs

end RetrySettings

/-- What a turn marker means. -/
inductive TurnSync where
  /-- Its number is the turn to reach. -/
  | strict
  /-- It is a label of the turn being played. -/
  | sequential
  deriving DecidableEq, Repr

inductive ReloadPolicy where
  /-- In battles of the raid kind. -/
  | auto
  | always
  | never
  deriving DecidableEq, Repr

structure Strategy where
  turnSync : TurnSync := .strict
  reloadAfterAttack : ReloadPolicy := .auto
  deriving DecidableEq, Repr

namespace Layout

/-- Offsets side by side at one height. -/
def row (xs : List Int) (dy : Int) : List Offset :=
  xs.map (⟨·, dy⟩)

/-- The entry of a slot, counted from one. -/
def slotOffset? (table : List Offset) (slot : UInt8) : Option Offset :=
  if slot = 0 then none else table[slot.toNat - 1]?

end Layout

/-- Where slots lie, as offsets from the attack button; allies from the prompt that asks for
one. -/
structure Layout where
  characters : List Offset := Layout.row [-317, -240, -158, -76] 123
  skills : List Offset := Layout.row [-213, -132, -51, 39] 171
  summons : List Offset := Layout.row [-317, -243, -165, -89, -12, 63] 138
  allyTargets : List Offset := Layout.row [-90, 0, 90] 85 ++ Layout.row [-90, 0, 90] 250
  enemies : List Offset := Layout.row [-280, -120, 40] (-290)
  deriving DecidableEq, Repr

namespace Layout

def character? (l : Layout) : UInt8 → Option Offset := slotOffset? l.characters
def skill? (l : Layout) : UInt8 → Option Offset := slotOffset? l.skills
def summon? (l : Layout) : UInt8 → Option Offset := slotOffset? l.summons
def ally? (l : Layout) : UInt8 → Option Offset := slotOffset? l.allyTargets
def enemy? (l : Layout) : UInt8 → Option Offset := slotOffset? l.enemies

theorem slotOffset?_isSome_iff {table : List Offset} {slot : UInt8} :
    (slotOffset? table slot).isSome ↔ 1 ≤ slot.toNat ∧ slot.toNat ≤ table.length := by
  unfold slotOffset?
  have h : slot = 0 ↔ slot.toNat = 0 := ⟨fun h => h ▸ rfl, fun h => UInt8.toNat_inj.1 h⟩
  split
  · next h0 => simp [h.1 h0]
  · next h0 =>
    have := mt h.2 h0
    simp only [isSome_getElem?]
    omega

end Layout

structure Settings where
  farmingMode : FarmingMode := .quest
  missionName : String := ""
  mapName : String := ""
  raid : RaidSettings := {}
  retry : RetrySettings := {}
  /-- Seconds to pause after every skill. -/
  idleAfterSkillSecs : Binary64 := .finite false 0
  idleAfterSummonSecs : Binary64 := .finite false 0
  /-- Try the quick summon before automation takes over at the end of the script. -/
  quickSummonFirst : Bool := false
  strategy : Strategy := {}
  layout : Layout := {}
  script : List String := []
  nightmareScript : List String := []
  deriving DecidableEq, Repr

end BattlePilot
