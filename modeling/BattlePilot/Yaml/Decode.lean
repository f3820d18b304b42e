import BattlePilot.Yaml.Node
import BattlePilot.Yaml.Scalar

/-!
Typed values of YAML documents. A place where nothing is written is an empty list, a record
without fields or the empty text; a text is any scalar, and anything else is a plain scalar, or a
literal one with the tag of its type.
-/

namespace BattlePilot.Yaml

/-- A value that is read from a document, by the nodes with an anchor, where so many more aliases
may be followed. -/
abbrev Decode := ReaderT (List (Nat × Node)) (StateT Nat Option)

/-- The value of a document. A hundred aliases may be followed for each part of it, so that a
short document does not stand for an endless one. -/
def Document.decode? (read : Node → Decode α) (document : Document) : Option α :=
  ((read document.root).run document.anchored).run' (100 * document.root.size)

namespace Node

/-- The node that a node stands for. -/
def follow : Node → Decode Node
  | .alias anchor => do
    let left ← get
    guard (0 < left)
    set (left - 1)
    (← read).lookup anchor
  | node => return node

/-- The tag of a type that documents have a word for. -/
def typeTag (word : String) : TagBytes :=
  .ofText ("tag:yaml.org,2002:" ++ word)

def text? : Node → Option String
  | .scalar _ _ text => some text
  | _ => none

/-- A scalar that may be of a type, read by its characters. -/
def typed? (word : String) (read : List Char → Option α) : Node → Option α
  | .scalar .plain _ text => read text.toList
  | .scalar .literal tag text => if tag = some (typeTag word) then read text.toList else none
  | _ => none

/-- The name in a tag that starts with an exclamation mark, which is the name if it is alone. -/
def localName? (tag : TagBytes) : Option String := do
  match (← String.fromUTF8? ⟨tag.toArray⟩).toList with
  | ['!'] => some "!"
  | '!' :: name => some (String.ofList name)
  | _ => none

/-- The text of a scalar, or the name in the tag of a null. -/
def word? : Node → Option String
  | .scalar style tag text =>
    match tag.bind localName? with
    | some name => if style = .plain ∧ (text = "" ∨ isNull text) then some name else none
    | none => some text
  | _ => none

def string (node : Node) : Decode String := do
  text? (← node.follow)

def scalar? (word : String) (read : List Char → Option α) (node : Node) : Decode α := do
  typed? word read (← node.follow)

/-- An integer of `0 ≤ n < bound`. -/
def nat (bound : Nat) : Node → Decode Nat :=
  scalar? "int" (readNat? bound)

def uint32 (node : Node) : Decode UInt32 :=
  UInt32.ofNat <$> node.nat UInt32.size

def uint64 (node : Node) : Decode UInt64 :=
  UInt64.ofNat <$> node.nat UInt64.size

/-- An integer of `least ≤ n ≤ greatest`. -/
def int (least greatest : Int) : Node → Decode Int :=
  scalar? "int" fun cs => (readInt? cs).bind fun n =>
    if least ≤ n ∧ n ≤ greatest then some n else none

def number : Node → Decode Binary64 :=
  scalar? "float" readNumber?

def bool : Node → Decode Bool :=
  scalar? "bool" fun cs => readBool? (String.ofList cs)

/-- One of some names. -/
def name (names : List (String × α)) (node : Node) : Decode α := do
  names.lookup (← word? (← node.follow))

/-- Nothing for a plain null. With the tag of null, nothing else is allowed; with another tag, a
null is none. -/
def option (read : Node → Decode α) (node : Node) : Decode (Option α) := do
  match ← node.follow with
  | node@(.scalar .plain none text) =>
    if text = "" ∨ isNull text then return none else some <$> read node
  | node@(.scalar .plain (some tag) text) =>
    if tag ≠ typeTag "null" then some <$> read node
    else if isNull text then return none
    else failure
  | node => some <$> read node

def list (read : Node → Decode α) (node : Node) : Decode (List α) := do
  match ← node.follow with
  | .sequence items => items.mapM read
  | .scalar .plain _ "" => return []
  | _ => failure

/-- The entries of a mapping, with the texts of their keys. -/
def entries (node : Node) : Decode (List (String × Node)) := do
  match ← node.follow with
  | .mapping entries => entries.mapM fun (key, value) => return (← key.string, value)
  | .scalar .plain _ "" => return []
  | _ => failure

/-- A table by name, in the order of names, where the last entry of a name counts. -/
def table (read : Node → Decode α) (node : Node) : Decode (List (String × α)) := do
  let entries ← (← node.entries).mapM fun (name, value) => return (name, ← read value)
  let names := (entries.map (·.1)).eraseDups.mergeSort (· ≤ ·)
  return names.filterMap fun name => entries.reverse.find? (·.1 == name)

/-- A record: its fields may be any of `names`, each once, and anything else is passed over. -/
structure Fields where
  entries : List (String × Node)

def fields (names : List String) (node : Node) : Decode Fields := do
  let known := (← node.entries).filter fun entry => names.contains entry.1
  let found := known.map (·.1)
  guard (found.eraseDups.length = found.length)
  return ⟨known⟩

namespace Fields

/-- A field that has a default. -/
def get (fields : Fields) (name : String) (default : α) (read : Node → Decode α) : Decode α :=
  match fields.entries.lookup name with
  | none => return default
  | some node => read node

/-- A field that must be there. -/
def need (fields : Fields) (name : String) (read : Node → Decode α) : Decode α := do
  read (← fields.entries.lookup name)

end Fields
end Node
end BattlePilot.Yaml
