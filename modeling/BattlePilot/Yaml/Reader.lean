import BattlePilot.Yaml.Token

/-!
Reading a YAML document from its tokens: nodes with their anchors and tags, block collections,
collections in brackets, directives and document marks.
-/

namespace BattlePilot.Yaml

/-- An anchor, and its node unless that has not ended yet. -/
structure Anchor where
  name : String
  number : Nat
  node : Option Node

/-- The tokens to come, the anchors so far, the last one first, how many different names they
have, and what the handles of tags stand for. -/
structure Feed where
  tokens : List Token
  anchors : List Anchor
  names : Nat
  handles : List (String × TagBytes)

/-- A node that has been read, and what comes after it. -/
abbrev Parsed := Node × Feed

/-- What may stand before a node, in any order. -/
structure Properties where
  anchor : Option String
  tag : Option Tag

namespace Feed

def drop (n : Nat) (f : Feed) : Feed :=
  { f with tokens := f.tokens.drop n }

/-- Whether one of some tokens comes next. -/
def at? (tokens : List Token) (f : Feed) : Bool :=
  f.tokens.head?.any tokens.contains

def properties (f : Feed) : Properties × Feed :=
  match f.tokens with
  | .anchor name :: .tag tag :: _ => (⟨some name, some tag⟩, f.drop 2)
  | .tag tag :: .anchor name :: _ => (⟨some name, some tag⟩, f.drop 2)
  | .anchor name :: _ => (⟨some name, none⟩, f.drop 1)
  | .tag tag :: _ => (⟨none, some tag⟩, f.drop 1)
  | _ => (⟨none, none⟩, f)

/-- The last anchor of a name. -/
def anchor? (name : String) (f : Feed) : Option Anchor :=
  f.anchors.find? (·.name == name)

/-- A node starts that may have an anchor. The number of an anchor is that of the different names
before it, so that a name which comes again shares its number with the next new one. -/
def openAnchor (name : Option String) (f : Feed) : Feed :=
  match name with
  | some name =>
    { f with
      anchors := ⟨name, f.names, none⟩ :: f.anchors
      names := if (f.anchor? name).isSome then f.names else f.names + 1 }
  | none => f

/-- The node that started when there were `older` anchors has been read. -/
def closeAnchor (name : Option String) (older : Nat) (node : Node) (f : Feed) : Feed :=
  if name.isSome then
    let place := f.anchors.length - 1 - older
    { f with anchors := f.anchors.modify place fun anchor => { anchor with node := some node } }
  else f

/-- The nodes with an anchor, the last one first. -/
def anchored (f : Feed) : List (Nat × Node) :=
  f.anchors.filterMap fun anchor => anchor.node.map (anchor.number, ·)

end Feed

mutual

/-- A node. Block collections are nodes only outside brackets, and a sequence in the column of
the mapping around it only below a key (`hanging`). -/
def node (fuel : Nat) (block hanging : Bool) (f : Feed) : Option Parsed :=
  match fuel with
  | 0 => none
  | fuel + 1 =>
    match f.tokens with
    | .alias name :: _ => (f.anchor? name).map fun anchor => (.alias anchor.number, f.drop 1)
    | _ => do
      let (properties, f) := f.properties
      let tag ← properties.tag.elim (some none) fun tag => (tag.resolve? f.handles).map some
      let older := f.anchors.length
      let f := f.openAnchor properties.anchor
      let (found, f) ← match f.tokens with
        | .scalar style text :: _ => some (.scalar style tag text, f.drop 1)
        | .openBracket :: _ => flowItems fuel true [] (f.drop 1)
        | .openBrace :: _ => flowEntries fuel true [] (f.drop 1)
        | tokens =>
          if hanging ∧ tokens.head? = some .dash then hangingItems fuel [] f
          else if block ∧ tokens.head? = some .blockSequence then blockItems fuel [] (f.drop 1)
          else if block ∧ tokens.head? = some .blockMapping then blockEntries fuel [] (f.drop 1)
          else if properties.anchor.isSome ∨ properties.tag.isSome then
            some (.scalar .plain tag "", f)
          else none
      return (found, f.closeAnchor properties.anchor older found)

/-- A node, or nothing written where one of some tokens comes next. -/
def nodeUnless (fuel : Nat) (tokens : List Token) (block hanging : Bool) (f : Feed) :
    Option Parsed :=
  match fuel with
  | 0 => none
  | fuel + 1 => if f.at? tokens then some (.empty, f) else node fuel block hanging f

/-- The items of a block sequence. -/
def blockItems (fuel : Nat) (items : List Node) (f : Feed) : Option Parsed :=
  match fuel with
  | 0 => none
  | fuel + 1 =>
    match f.tokens with
    | .dash :: _ => do
      let (item, f) ← nodeUnless fuel [.dash, .blockEnd] true false (f.drop 1)
      blockItems fuel (item :: items) f
    | .blockEnd :: _ => some (.sequence items.reverse, f.drop 1)
    | _ => none

/-- The items of a sequence in the column of the mapping around it. -/
def hangingItems (fuel : Nat) (items : List Node) (f : Feed) : Option Parsed :=
  match fuel with
  | 0 => none
  | fuel + 1 =>
    match f.tokens with
    | .dash :: _ => do
      let (item, f) ← nodeUnless fuel [.dash, .key, .value, .blockEnd] true false (f.drop 1)
      hangingItems fuel (item :: items) f
    | _ => some (.sequence items.reverse, f)

/-- The entries of a block mapping; an entry may lack its key or its value. -/
def blockEntries (fuel : Nat) (entries : List (Node × Node)) (f : Feed) : Option Parsed :=
  match fuel with
  | 0 => none
  | fuel + 1 => do
    let stops : List Token := [.key, .value, .blockEnd]
    if f.at? [.blockEnd] then return (.mapping entries.reverse, f.drop 1)
    if !f.at? [.key] then none
    let (key, f) ← nodeUnless fuel stops true true (f.drop 1)
    let (value, f) ←
      if f.at? [.value] then nodeUnless fuel stops true true (f.drop 1) else some (.empty, f)
    blockEntries fuel ((key, value) :: entries) f

/-- The items of a sequence in brackets, after the bracket (`first`) or an item. An item with a
key is a mapping of one entry. -/
def flowItems (fuel : Nat) (first : Bool) (items : List Node) (f : Feed) : Option Parsed :=
  match fuel with
  | 0 => none
  | fuel + 1 => do
    if f.at? [.closeBracket] then return (.sequence items.reverse, f.drop 1)
    if !first && !f.at? [.comma] then none
    let f := if first then f else f.drop 1
    if f.at? [.closeBracket] then return (.sequence items.reverse, f.drop 1)
    let (item, f) ← if f.at? [.key] then flowPair fuel (f.drop 1) else node fuel false false f
    flowItems fuel false (item :: items) f

/-- A single entry after the mark of its key, in brackets. If the key is missing, so is the token
that stands in its place. -/
def flowPair (fuel : Nat) (f : Feed) : Option Parsed :=
  match fuel with
  | 0 => none
  | fuel + 1 => do
    let (key, f) ←
      if f.at? [.value, .comma, .closeBracket] then some (.empty, f.drop 1)
      else node fuel false false f
    let (value, f) ←
      if f.at? [.value] then nodeUnless fuel [.comma, .closeBracket] false false (f.drop 1)
      else some (.empty, f)
    return (.mapping [(key, value)], f)

/-- The entries of a mapping in brackets, after the bracket (`first`) or an entry. -/
def flowEntries (fuel : Nat) (first : Bool) (entries : List (Node × Node)) (f : Feed) :
    Option Parsed :=
  match fuel with
  | 0 => none
  | fuel + 1 => do
    if f.at? [.closeBrace] then return (.mapping entries.reverse, f.drop 1)
    if !first && !f.at? [.comma] then none
    let f := if first then f else f.drop 1
    if f.at? [.closeBrace] then return (.mapping entries.reverse, f.drop 1)
    if f.at? [.key] then
      let (key, f) ← nodeUnless fuel [.value, .comma, .closeBrace] false false (f.drop 1)
      let (value, f) ←
        if f.at? [.value] then nodeUnless fuel [.comma, .closeBrace] false false (f.drop 1)
        else some (.empty, f)
      flowEntries fuel false ((key, value) :: entries) f
    else
      let (key, f) ← node fuel false false f
      flowEntries fuel false ((key, .empty) :: entries) f

end

/-- The directives before a document: at most one version, and each handle once. -/
def directives? (version : Bool) (f : Feed) : List Token → Option Feed
  | .directive (.version major minor) :: rest =>
    if !version ∧ major = 1 ∧ (minor = 1 ∨ minor = 2) then directives? true f rest else none
  | .directive (.handle name start) :: rest =>
    if (f.handles.lookup name).isSome then none
    else directives? version { f with handles := (name, start) :: f.handles } rest
  | tokens => some { f with tokens }

/-- The first document: after its directives and mark, if it has any. -/
def document? (tokens : List Token) : Option Parsed := do
  let fuel := 4 * (tokens.length + 2)
  let f ← directives? false ⟨tokens, [], 0, []⟩ tokens
  let marked := f.at? [.documentStart]
  let f := { f with handles := f.handles ++ Tag.usualHandles }
  if f.tokens.isEmpty ∧ tokens.isEmpty then return (.empty, f)
  if f.tokens.length < tokens.length ∧ !marked then none
  let f := if marked then f.drop 1 else f
  let empty : Bool := match f.tokens with
    | [] | .directive _ :: _ | .documentStart :: _ | .documentEnd :: _ => marked
    | _ => false
  if empty then return (.empty, f)
  node fuel true false f

/-- The one document of a text. -/
def Document.ofText? (text : String) : Option Document := do
  let (root, f) ← document? (← Token.ofText? text)
  guard (f.tokens.all (· == .documentEnd))
  return ⟨root, f.anchored⟩

end BattlePilot.Yaml
