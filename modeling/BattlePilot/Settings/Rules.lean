import BattlePilot.Settings.Basic

/-!
What the settings imply for a battle: whether it is a raid, what to do when the party falls, when
to reload, how long it may take and how long to pause.
-/

namespace BattlePilot.Settings

/-- Whether `word` stands somewhere in a text. -/
def occurs (word : List Char) : List Char → Bool
  | [] => word.isEmpty
  | c :: rest => word.isPrefixOf (c :: rest) || occurs word rest

/-- Missions that are raids in every mode. -/
def raidMissions : List String :=
  ["VH Event Raid", "EX Event Raid", "IM Event Raid", "EX Zhuque", "EX Xuanwu", "EX Baihu",
    "EX Qinglong", "Lvl 100 Shenxian", "1 Star", "2 Star", "3 Star", "4 Star", "5 Star",
    "Xeno Clash Raid"]

/-- Missions that are raids in one mode only. -/
def raidMissionsOf : FarmingMode → List String
  | .provingGrounds => ["Extreme", "Extreme+"]
  | .guildWars => ["Very Hard", "Extreme", "Extreme+", "NM90", "NM100", "NM150"]
  | _ => []

def isRaidType (s : Settings) : Bool :=
  s.farmingMode == .raid || raidMissions.contains s.missionName ||
    (raidMissionsOf s.farmingMode).contains s.missionName

/-- Whether a fallen party goes home without retreating. -/
def backsOutOnWipe (s : Settings) : Bool :=
  s.farmingMode == .raid || s.farmingMode == .dreadBarrage || s.farmingMode == .guildWars ||
    occurs "Raid".toList s.mapName.toList

/-- Whether a fallen party may retreat when the game offers it. -/
def retreatsOnWipe (s : Settings) : Bool :=
  s.farmingMode != .raid && s.farmingMode != .dreadBarrage

def reloadsAfterAttack (s : Settings) : Bool :=
  match s.strategy.reloadAfterAttack with
  | .auto => s.isRaidType
  | .always => true
  | .never => false

/-- How long the battle may take. -/
def timeBudget? (s : Settings) : Option Span :=
  if s.farmingMode = .raid ∧ s.raid.autoExit then some (.ofSeconds s.raid.timeAllowedSecs)
  else none

/-- The pause that a number of seconds asks for. -/
inductive Pause where
  | none
  | span (d : Span)
  /-- Longer than any span. -/
  | tooLong
  deriving DecidableEq, Repr

/-- The pause of a span; without a span it is too long. -/
def Pause.of : Option Span → Pause
  | .some d => .span d
  | .none => .tooLong

/-- Only a positive number asks for a pause. -/
def pause : Binary64 → Pause
  | .finite negative units =>
    if negative || units == 0 then .none else .of (Span.ofMagnitude? units)
  | _ => .none

def idleAfterSkill (s : Settings) : Pause := pause s.idleAfterSkillSecs

def idleAfterSummon (s : Settings) : Pause := pause s.idleAfterSummonSecs

end BattlePilot.Settings
