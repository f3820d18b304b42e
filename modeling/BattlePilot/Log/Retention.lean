import BattlePilot.Log.Name

/-!
Which entries of a log directory are too old to keep.
-/

namespace BattlePilot.Log

structure Entry where
  name : String
  /-- Seconds since the last change. -/
  age : Nat
  isDirectory : Bool

/-- Log files are kept for three days. -/
def retention : Nat := 3 * secondsPerDay

/-- What follows the last dot of a name, unless nothing stands before that dot. -/
def extension? (name : String) : Option String :=
  let (back, front) := name.toList.reverse.span (· != '.')
  match front with
  | '.' :: _ :: _ => some (String.ofList back.reverse)
  | _ => none

def Entry.isStale (e : Entry) : Bool :=
  extension? e.name == some "log" && retention < e.age && !e.isDirectory

/-- The names that stay, in order. -/
def kept (entries : List Entry) : List String :=
  ((entries.filter (!·.isStale)).map (·.name)).mergeSort (· ≤ ·)

end BattlePilot.Log
