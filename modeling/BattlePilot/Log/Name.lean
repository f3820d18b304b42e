import BattlePilot.Number.Numeral
import BattlePilot.Time.Calendar

/-!
Names of log files: the second of their creation, in universal time.
-/

namespace BattlePilot.Log

def secondsPerDay : Nat := 86400

/-- Date and time of day `secs` seconds after the start of 1970, as `YYYYMMDD_HHMMSS`. -/
def stampChars (secs : Nat) : List Char :=
  let date := Date.ofDays (secs / secondsPerDay)
  let clock := secs % secondsPerDay
  Numeral.padded 4 date.year ++ Numeral.padded 2 date.month ++ Numeral.padded 2 date.day ++
    '_' :: Numeral.padded 2 (clock / 3600) ++ Numeral.padded 2 (clock % 3600 / 60) ++
    Numeral.padded 2 (clock % 60)

def stamp (secs : Nat) : String :=
  String.ofList (stampChars secs)

/-- The log file of that second, below a directory. -/
def path (directory : String) (secs : Nat) : String :=
  directory ++ "/" ++ stamp secs ++ ".log"

end BattlePilot.Log
