import BattlePilot.Yaml.Literal
import BattlePilot.Yaml.Tag

/-!
The tokens of a YAML document. Block collections have no marks of their own: a collection starts
where something is indented further than what is around it, and ends where something is indented
less. That something is a key shows only at the colon behind it, so a slot is kept before
everything that may turn out to be one.
-/

namespace BattlePilot.Yaml

inductive Token where
  | directive (content : Directive)
  | documentStart
  | documentEnd
  | blockSequence
  | blockMapping
  | blockEnd
  | openBracket
  | closeBracket
  | openBrace
  | closeBrace
  | comma
  /-- The mark of an item outside brackets. -/
  | dash
  /-- What follows is a key, or else a value. -/
  | key
  | value
  | anchor (name : String)
  /-- The place of a node that has this anchor. -/
  | alias (name : String)
  | tag (content : Tag)
  | scalar (style : Style) (text : String)
  deriving DecidableEq, Repr, Inhabited

/-- Something that may turn out to be a key, and the slot before it. One that stands in the column
of its block must be a key. -/
structure PendingKey where
  slot : Nat
  required : Bool
  line : Nat
  column : Nat
  offset : Nat

/-- A key takes one line, and 1024 bytes of it at most up to its colon. -/
def PendingKey.isStale (k : PendingKey) (cur : Cursor) : Bool :=
  k.line < cur.line || k.offset + 1024 < cur.offset

/-- The state of reading tokens. -/
structure Scan where
  cursor : Cursor
  /-- The tokens read so far, some slots being empty. -/
  slots : Array (List Token)
  /-- The columns of the block collections around, the innermost first. -/
  columns : List Nat
  /-- Whether a key may start here. -/
  keyAllowed : Bool
  pending : Option PendingKey
  /-- For each pair of brackets around, what was pending before it. -/
  brackets : List (Option PendingKey)

namespace Scan

def start (text : List Char) : Scan :=
  ⟨.start text, #[], [], true, none, []⟩

def inBrackets (s : Scan) : Bool :=
  !s.brackets.isEmpty

def emit (tokens : List Token) (s : Scan) : Scan :=
  { s with slots := s.slots.push tokens }

/-- A mark of `n` characters, read as a token. -/
def mark (n : Nat) (token : Token) (s : Scan) : Scan :=
  { s.emit [token] with cursor := s.cursor.forward n }

/-- The least column of something further indented than what is around. -/
def least (s : Scan) : Nat :=
  match s.columns with
  | [] => 0
  | column :: _ => column + 1

/-- A collection starts in `column` unless one of this column or beyond is open already; inside
brackets, none does. -/
def startBlock (column : Nat) (token : Token) (s : Scan) : List Token × Scan :=
  if s.inBrackets ∨ column < s.least then ([], s)
  else ([token], { s with columns := column :: s.columns })

/-- The collections beyond `column` end. -/
def endBlocks (column : Nat) (s : Scan) : Scan :=
  if s.inBrackets then s
  else
    let inner := s.columns.takeWhile (column < ·)
    if inner.isEmpty then s
    else { s.emit (inner.map fun _ => .blockEnd) with columns := s.columns.drop inner.length }

def endAllBlocks (s : Scan) : Scan :=
  if s.inBrackets then s else { s.emit (s.columns.map fun _ => .blockEnd) with columns := [] }

/-- What was pending is no key; nothing, if it had to be one. -/
def dropKey? (s : Scan) : Option Scan :=
  if s.pending.any (·.required) then none else some { s with pending := none }

/-- What is pending may be a key no longer when its line has ended. -/
def dropStaleKey? (s : Scan) : Option Scan :=
  if s.pending.any (·.isStale s.cursor) then s.dropKey? else some s

/-- Something starts here that may be a key. -/
def awaitKey? (s : Scan) : Option Scan :=
  if s.keyAllowed then do
    let s ← s.dropKey?
    let key : PendingKey := {
      slot := s.slots.size
      required := !s.inBrackets && s.columns.head? == some s.cursor.column
      line := s.cursor.line
      column := s.cursor.column
      offset := s.cursor.offset }
    return { s.emit [] with pending := some key }
  else some s

/-- The next place with a token, where collections that it is not indented for have ended. -/
def advance? (s : Scan) : Option Scan :=
  let (cursor, keyAllowed) := s.cursor.skip s.inBrackets s.keyAllowed
  let s := { s with cursor, keyAllowed }
  s.dropStaleKey?.map (·.endBlocks cursor.column)

def openCollection? (token : Token) (s : Scan) : Option Scan := do
  let s ← s.awaitKey?
  let s := s.mark 1 token
  return { s with keyAllowed := true, pending := none, brackets := s.pending :: s.brackets }

def closeCollection? (token : Token) (s : Scan) : Option Scan := do
  let s := (← s.dropKey?).mark 1 token
  match s.brackets with
  | [] => return { s with keyAllowed := false }
  | pending :: brackets => return { s with keyAllowed := false, pending, brackets }

def comma? (s : Scan) : Option Scan := do
  return { (← s.dropKey?).mark 1 .comma with keyAllowed := true }

/-- A mark before which a block collection of its column starts. -/
def blockMark? (collection token : Token) (s : Scan) : Option Scan :=
  if !s.inBrackets && !s.keyAllowed then none
  else
    let (tokens, s) := s.startBlock s.cursor.column collection
    (s.emit tokens).dropKey?.map (mark 1 token)

def dash? (s : Scan) : Option Scan :=
  (s.blockMark? .blockSequence .dash).map fun s => { s with keyAllowed := true }

/-- A mark that announces a key. -/
def explicitKey? (s : Scan) : Option Scan :=
  (s.blockMark? .blockMapping .key).map fun s => { s with keyAllowed := !s.inBrackets }

/-- A colon: what was pending before it is a key, in whose column a mapping may start. -/
def colon? (s : Scan) : Option Scan :=
  match s.pending with
  | some key =>
    let (tokens, s) := s.startBlock key.column .blockMapping
    let slots := s.slots.setIfInBounds key.slot (tokens ++ [.key])
    some (mark 1 .value { s with slots, pending := none, keyAllowed := false })
  | none =>
    if !s.inBrackets && !s.keyAllowed then none
    else
      let (tokens, s) := s.startBlock s.cursor.column .blockMapping
      some { (s.emit tokens).mark 1 .value with keyAllowed := !s.inBrackets }

/-- A line of three marks. -/
def documentMark? (token : Token) (s : Scan) : Option Scan := do
  let s ← s.endAllBlocks.dropKey?
  return { s.mark 3 token with keyAllowed := false }

def directive? (s : Scan) : Option Scan := do
  let s ← s.endAllBlocks.dropKey?
  let (content, cursor) ← Directive.read? (s.cursor.forward 1)
  return { s.emit [.directive content] with cursor, keyAllowed := false }

/-- An anchor, an alias or a tag. -/
def property? (read : Cursor → Option (Token × Cursor)) (s : Scan) : Option Scan := do
  let s ← s.awaitKey?
  let (token, cursor) ← read s.cursor
  return { s.emit [token] with cursor, keyAllowed := false }

def scalar (style : Style) (scanned : Scanned) (s : Scan) : Scan :=
  { s.emit [.scalar style (String.ofList scanned.text)] with
    cursor := scanned.cursor, keyAllowed := scanned.keyAllowed }

/-- A scalar that may be a key, plain or in quotes. -/
def flowScalar? (style : Style) (read : Cursor → Option Scanned) (s : Scan) : Option Scan := do
  let s ← s.awaitKey?
  return s.scalar style (← read s.cursor)

/-- A literal or folded scalar after its mark. -/
def literal? (folded : Bool) (s : Scan) : Option Scan := do
  let s ← s.dropKey?
  let scanned ← literal folded s.least (s.cursor.forward 1)
  return s.scalar (if folded then .folded else .literal) scanned

/-- The token that starts with `c`, the first character of the rest. -/
def token? (c : Char) (rest : List Char) (s : Scan) : Option Scan :=
  let blankNext := startsBlank rest
  let inside := s.inBrackets
  if s.cursor.column = 0 ∧ c = '%' then s.directive?
  else if s.cursor.atLineMark '-' then s.documentMark? .documentStart
  else if s.cursor.atLineMark '.' then s.documentMark? .documentEnd
  else if c = '[' then s.openCollection? .openBracket
  else if c = '\x7b' then s.openCollection? .openBrace
  else if c = ']' then s.closeCollection? .closeBracket
  else if c = '\x7d' then s.closeCollection? .closeBrace
  else if c = ',' then s.comma?
  else if c = '-' ∧ blankNext then s.dash?
  else if c = '?' ∧ (inside ∨ blankNext) then s.explicitKey?
  else if c = ':' ∧ (inside ∨ blankNext) then s.colon?
  else if c = '*' then
    s.property? fun cur => (anchorName (cur.forward 1)).map fun (name, cur) => (.alias name, cur)
  else if c = '&' then
    s.property? fun cur => (anchorName (cur.forward 1)).map fun (name, cur) => (.anchor name, cur)
  else if c = '!' then
    s.property? fun cur => (Tag.read? inside cur).map fun (tag, cur) => (.tag tag, cur)
  else if c = '|' ∧ !inside then s.literal? false
  else if c = '>' ∧ !inside then s.literal? true
  else if c = '"' then
    s.flowScalar? .quoted fun cur => doubleQuoted [] .none .plain (cur.forward 1) rest
  else if c = quoteMark then
    s.flowScalar? .quoted fun cur => singleQuoted [] .none false (cur.forward 1) rest
  else if startsPlain inside (c :: rest) then
    s.flowScalar? .plain fun cur => plain inside s.least [] .none cur cur.rest
  else none

/-- All tokens up to the end of the text. -/
def run? (fuel : Nat) (s : Scan) : Option Scan :=
  match fuel with
  | 0 => none
  | fuel + 1 => do
    let s ← s.advance?
    match s.cursor.rest with
    | [] => s.endAllBlocks.dropKey?
    | c :: rest => run? fuel (← s.token? c rest)

end Scan

/-- The tokens of a text. -/
def Token.ofText? (text : String) : Option (List Token) := do
  let cs := text.toList
  guard (cs.all isAllowed)
  let cs := normalizeBreaks [] cs
  let s ← (Scan.start cs).run? (cs.length + 1)
  return s.slots.toList.flatten

end BattlePilot.Yaml
