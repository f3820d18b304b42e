/-!
The words of a command line. Each option is given once; its value is the next word, or follows an
equals sign; after two dashes alone, every word is a place.
-/

namespace BattlePilot

/-- What the program is asked to do. -/
inductive Request where
  /-- Read a script and print it in its canonical form. -/
  | check (script : String) (json : Bool)
  /-- Fight by a script on a simulated screen. -/
  | simulate (script : Option String) (scenario : String) (settings : Option String)
    (nightmare json : Bool)
  deriving DecidableEq, Repr

structure Invocation where
  logDirectory : Option String
  request : Request
  deriving DecidableEq, Repr

namespace Arguments

/-- The options of a command, and how many places it has. -/
structure Grammar where
  valued : List String
  /-- Options that have a letter too. -/
  letters : List (Char × String)
  flags : List String
  places : Nat

def logOption : String := "log-dir"

def checkGrammar : Grammar := ⟨[logOption], [], ["json"], 1⟩

def simulateGrammar : Grammar :=
  ⟨[logOption, "script", "scenario", "settings"], [('s', "script")], ["nightmare", "json"], 0⟩

/-- What has been read so far. -/
structure Given where
  /-- The option whose value is to come. -/
  pending : Option String := none
  /-- Two dashes have been read. -/
  closed : Bool := false
  values : List (String × String) := []
  flags : List String := []
  places : List String := []

namespace Given

/-- A value for an option that has none yet; no value is empty. -/
def value? (g : Given) (name value : String) : Option Given :=
  if value = "" ∨ g.values.any (·.1 == name) then none
  else some { g with pending := none, values := (name, value) :: g.values }

def flag? (g : Given) (name : String) : Option Given :=
  if g.flags.contains name then none else some { g with flags := name :: g.flags }

def place? (g : Given) (grammar : Grammar) (word : String) : Option Given :=
  if word = "" ∨ grammar.places ≤ g.places.length then none
  else some { g with places := g.places ++ [word] }

def get? (g : Given) (name : String) : Option String :=
  g.values.lookup name

end Given

/-- A name and what follows the first equals sign after it. -/
def splitEquals (cs : List Char) : String × Option String :=
  (String.ofList (cs.takeWhile (· != '=')),
    match cs.dropWhile (· != '=') with
    | [] => none
    | _ :: value => some (String.ofList value))

/-- A word with two dashes before it. -/
def longOption? (grammar : Grammar) (g : Given) (body : List Char) : Option Given :=
  match splitEquals body with
  | (name, some value) => if grammar.valued.contains name then g.value? name value else none
  | (name, none) =>
    if grammar.valued.contains name then some { g with pending := some name }
    else if grammar.flags.contains name then g.flag? name
    else none

/-- A letter with a dash before it, and what follows it in the same word. -/
def letterOption? (grammar : Grammar) (g : Given) (letter : Char) (body : List Char) :
    Option Given := do
  let name ← grammar.letters.lookup letter
  match body with
  | [] => some { g with pending := some name }
  | '=' :: value => g.value? name (String.ofList value)
  | value => g.value? name (String.ofList value)

/-- One more word. -/
def word? (grammar : Grammar) (g : Given) (word : String) : Option Given :=
  if g.closed then g.place? grammar word
  else
    match g.pending, word.toList with
    | none, ['-', '-'] => some { g with closed := true }
    | none, '-' :: '-' :: body => longOption? grammar g body
    | none, '-' :: letter :: body => letterOption? grammar g letter body
    | none, _ => g.place? grammar word
    | some _, '-' :: _ :: _ => none
    | some name, _ => g.value? name word

/-- All words of a command. -/
def read? (grammar : Grammar) (words : List String) : Option Given := do
  let g ← words.foldlM (word? grammar) {}
  if g.pending.isSome then none else some g

/-- A command with the words after its name; a log directory given before the name counts unless
the command has one too. -/
def command? (logDirectory : Option String) (name : String) (words : List String) :
    Option Invocation := do
  match name with
  | "check" =>
    let g ← read? checkGrammar words
    let script ← g.places.head?
    return ⟨(g.get? logOption).or logDirectory, .check script (g.flags.contains "json")⟩
  | "simulate" =>
    let g ← read? simulateGrammar words
    let scenario ← g.get? "scenario"
    return ⟨(g.get? logOption).or logDirectory,
      .simulate (g.get? "script") scenario (g.get? "settings")
        (g.flags.contains "nightmare") (g.flags.contains "json")⟩
  | _ => none

/-- Words before the name of the command; only the log directory may stand there. -/
def parseFrom? (logDirectory : Option String) : List String → Option Invocation
  | [] => none
  | word :: rest =>
    if word.toList.take 2 = ['-', '-'] then
      match splitEquals (word.toList.drop 2), rest with
      | (name, some value), rest =>
        if name = logOption ∧ value ≠ "" ∧ logDirectory = none then
          parseFrom? (some value) rest
        else none
      | (name, none), value :: rest =>
        let isOption := value.toList.head? = some '-' ∧ value ≠ "-"
        if name = logOption ∧ value ≠ "" ∧ ¬isOption ∧ logDirectory = none then
          parseFrom? (some value) rest
        else none
      | _, [] => none
    else command? logDirectory word rest

/-- What a command line asks for, if it is well-formed. -/
def parse? (words : List String) : Option Invocation :=
  parseFrom? none words

end Arguments
end BattlePilot
