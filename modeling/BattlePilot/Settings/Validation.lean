import BattlePilot.Settings.Basic

/-!
Which settings a battle can be played with.
-/

namespace BattlePilot

inductive SettingsError where
  | layoutSize (table : String) (expected found : Nat)
  | noAutoPoll
  | noTimeAllowed
  | badPause
  deriving DecidableEq, Repr

def SettingsError.message : SettingsError → String
  | layoutSize table expected found =>
    s!"invalid settings: layout.{table} must have {expected} entries, found {found}"
  | noAutoPoll => "invalid settings: retry.autoPollSecs must be at least 1"
  | noTimeAllowed =>
    "invalid settings: raid.timeAllowedSecs must be positive when auto exit is enabled"
  | badPause => "invalid settings: idle pauses must be non-negative seconds"

namespace Layout

/-- The tables with the sizes they must have. -/
def tables (l : Layout) : List (String × List Offset × Nat) :=
  [("characters", l.characters, 4), ("skills", l.skills, 4), ("summons", l.summons, 6),
    ("allyTargets", l.allyTargets, 6), ("enemies", l.enemies, 3)]

/-- The first table of the wrong size. -/
def fault? (l : Layout) : Option SettingsError :=
  (l.tables.find? fun (_, table, size) => table.length != size).map fun (name, table, size) =>
    .layoutSize name size table.length

end Layout

namespace Settings

/-- The first rule that the settings break. -/
def fault? (s : Settings) : Option SettingsError :=
  if let some fault := s.layout.fault? then some fault
  else if s.retry.autoPollSecs = 0 then some .noAutoPoll
  else if s.raid.autoExit ∧ s.raid.timeAllowedSecs = 0 then some .noTimeAllowed
  else if s.idleAfterSkillSecs.nonNegative?.isNone ∨ s.idleAfterSummonSecs.nonNegative?.isNone then
    some .badPause
  else none

def validate (s : Settings) : Except SettingsError Unit :=
  match s.fault? with
  | some fault => .error fault
  | none => .ok ()

end Settings
end BattlePilot
