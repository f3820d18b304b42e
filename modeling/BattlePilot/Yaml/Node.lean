/-!
The content of a YAML document.
-/

namespace BattlePilot.Yaml

/-- How the text of a scalar is written: in quotes, below a mark, or as it is. -/
inductive Style where
  | plain
  | quoted
  | literal
  | folded
  deriving DecidableEq, Repr, Inhabited

/-- The bytes of a tag, which need not be text. -/
abbrev TagBytes := List UInt8

def TagBytes.ofText (text : String) : TagBytes :=
  text.toUTF8.data.toList

inductive Node where
  /-- A text, with its tag if it has one. -/
  | scalar (style : Style) (tag : Option TagBytes) (text : String)
  | sequence (items : List Node)
  | mapping (entries : List (Node × Node))
  /-- Stands for the node with an anchor of this number. -/
  | alias (anchor : Nat)
  deriving Repr, Inhabited

/-- A document, with the nodes that have an anchor. Where several have one of the same number,
the first of them here counts. -/
structure Document where
  root : Node
  anchored : List (Nat × Node)
  deriving Repr, Inhabited

namespace Node

/-- The node of a place where nothing is written. -/
def empty : Node := .scalar .plain none ""

mutual

/-- How many scalars, aliases, and starts and ends of collections a node is made of. -/
def size : Node → Nat
  | .scalar .. | .alias _ => 1
  | .sequence items => 2 + itemsSize 0 items
  | .mapping entries => 2 + entriesSize 0 entries

/-- The size of items, where those before them have the size `acc`. -/
def itemsSize (acc : Nat) : List Node → Nat
  | [] => acc
  | item :: items => itemsSize (acc + item.size) items

/-- The size of entries, where those before them have the size `acc`. -/
def entriesSize (acc : Nat) : List (Node × Node) → Nat
  | [] => acc
  | (key, value) :: entries => entriesSize (acc + key.size + value.size) entries

end

end Node
end BattlePilot.Yaml
