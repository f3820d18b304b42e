import BattlePilot.Number.Literal

/-!
Values that a plain scalar can stand for: integers, numbers, truth values and nothing.
-/

namespace BattlePilot.Yaml

/-- A non-empty run of digits in a base. -/
def digitsIn? (base : Nat) (cs : List Char) : Option Nat :=
  if cs = [] then none
  else cs.foldlM (fun acc c => (Numeral.digitIn? base c).map (base * acc + ·)) 0

/-- An integer without its sign. A numeral of more than one digit that starts with zero is text,
unless a letter after the zero names its base. -/
def magnitude? : List Char → Option Nat
  | '0' :: 'x' :: ds => digitsIn? 16 ds
  | '0' :: 'o' :: ds => digitsIn? 8 ds
  | '0' :: 'b' :: ds => digitsIn? 2 ds
  | '0' :: _ :: _ => none
  | ds => digitsIn? 10 ds

/-- An integer with at most one sign. -/
def readInt? : List Char → Option Int
  | '+' :: ds => (magnitude? ds).map Int.ofNat
  | '-' :: ds => (magnitude? ds).map fun n => -(n : Int)
  | ds => (magnitude? ds).map Int.ofNat

/-- An integer below `bound` without a minus sign. -/
def readNat? (bound : Nat) (cs : List Char) : Option Nat :=
  if cs.head? = some '-' then none
  else (readInt? cs).bind fun n => if n.toNat < bound then some n.toNat else none

/-- The words for infinity and for no number start with a dot. -/
def readNumber? (cs : List Char) : Option Binary64 :=
  let (plus, body) := match cs with
    | '+' :: rest => (true, rest)
    | rest => (false, rest)
  if plus ∧ (body.head? = some '+' ∨ body.head? = some '-') then none
  else if [".inf", ".Inf", ".INF"].contains (String.ofList body) then some (.infinite false)
  else if ["-.inf", "-.Inf", "-.INF"].contains (String.ofList cs) then some (.infinite true)
  else if [".nan", ".NaN", ".NAN"].contains (String.ofList cs) then some .nan
  else (Literal.read? body).bind fun x => if x.isFinite then some x else none

def readBool? (text : String) : Option Bool :=
  if ["true", "True", "TRUE"].contains text then some true
  else if ["false", "False", "FALSE"].contains text then some false
  else none

def isNull (text : String) : Bool :=
  ["null", "Null", "NULL", "~"].contains text

end BattlePilot.Yaml
