import BattlePilot.Json.Basic
import BattlePilot.Time.Span

/-!
Reading typed values from JSON. A choice is a bare name, or an object with the name as its only
field and what the choice carries as its value; if it carries several things, these are the fields
of an object.
-/

namespace BattlePilot.Json

/-- An integer of `0 ≤ n < bound`. -/
def readNat? (bound : Nat) : Json → Option Nat
  | .int n => if 0 ≤ n ∧ n < bound then some n.toNat else none
  | _ => none

def readUInt8? (value : Json) : Option UInt8 :=
  (value.readNat? UInt8.size).map UInt8.ofNat

def readUInt32? (value : Json) : Option UInt32 :=
  (value.readNat? UInt32.size).map UInt32.ofNat

def readBool? : Json → Option Bool
  | .bool b => some b
  | _ => none

/-- Nothing for `null`. -/
def readOption? (read : Json → Option α) : Json → Option (Option α)
  | .null => some none
  | value => (read value).map some

def readList? (read : Json → Option α) : Json → Option (List α)
  | .arr items => items.mapM read
  | _ => none

def field? (fields : List (String × Json)) (name : String) : Option Json :=
  (fields.find? (·.1 == name)).map (·.2)

/-- The fields of an object in the order of `names`, those that are there. -/
def record? (names : List String) : Json → Option (List (Option Json))
  | .obj fields => some (names.map (field? fields))
  | _ => none

/-- The name of a choice and what it carries. -/
def choice? : Json → Option (String × Option Json)
  | .str name => some (name, none)
  | .obj [(name, value)] => some (name, some value)
  | _ => none

/-- A choice that carries nothing. -/
def readName? (names : List (String × α)) (value : Json) : Option α :=
  match value.choice? with
  | some (name, none) | some (name, some .null) => (names.find? (·.1 == name)).map (·.2)
  | _ => none

/-- The seconds and nanoseconds of a span: in an object with nothing else, or in an array. -/
def spanParts? : Json → Option (Json × Json)
  | .obj fields => do
    guard (fields.all fun field => field.1 == "secs" || field.1 == "nanos")
    return (← field? fields "secs", ← field? fields "nanos")
  | .arr [seconds, nanos] => some (seconds, nanos)
  | _ => none

/-- A span, whose nanoseconds may exceed a second and then carry over. -/
def readSpan? (value : Json) : Option Span := do
  let (seconds, nanos) ← value.spanParts?
  let seconds ← seconds.readNat? UInt64.size
  let nanos ← nanos.readNat? UInt32.size
  Span.ofNanos? (seconds * Span.nanosPerSecond + nanos)

def ofSpan (d : Span) : Json :=
  .obj [("secs", .nat d.seconds), ("nanos", .nat d.subseconds)]

end BattlePilot.Json
