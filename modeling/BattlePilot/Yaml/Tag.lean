import BattlePilot.Yaml.Node
import BattlePilot.Yaml.Text

/-!
Names in a YAML document: anchors, tags and directives.
-/

namespace BattlePilot.Yaml

/-- Characters of anchors, of the handles of tags and of the names of directives. -/
def isNameChar (c : Char) : Bool :=
  c.isAlphanum || c == '_' || c == '-'

/-- The name of an anchor, and the place after it. -/
def anchorName (cur : Cursor) : Option (String × Cursor) :=
  let name := cur.rest.takeWhile isNameChar
  let after := cur.forward name.length
  let ended := startsBlank after.rest ||
    after.rest.head?.any (['?', ':', ',', ']', '\x7d', '%', '@', '\x60'].contains ·)
  if name ≠ [] ∧ ended then some (String.ofList name, after) else none

/-- A tag as it is written: an abbreviation that stands for the start of the tag, or nothing, and
the rest. -/
structure Tag where
  handle : String
  suffix : TagBytes
  deriving DecidableEq, Repr, Inhabited

namespace Tag

/-- Characters of a tag after its handle; some more in a tag that is written out in full. -/
def isSuffixChar (full : Bool) (c : Char) : Bool :=
  isNameChar c ||
    [';', '/', '?', ':', '@', '&', '=', '+', '$', '.', '%', '!', '~', '*', quoteMark, '(', ')'].contains c ||
    (full && [',', '[', ']'].contains c)

/-- How many bytes a character of UTF-8 has, by the first of them. -/
def width? (byte : Nat) : Option Nat :=
  if byte < 0x80 then some 1
  else if byte < 0xC0 then none
  else if byte < 0xE0 then some 2
  else if byte < 0xF0 then some 3
  else if byte < 0xF8 then some 4
  else none

/-- The bytes of a suffix, where two hexadecimal digits after a percent sign stand for a byte.
Of a character that is written so, `left` bytes are to come. -/
def bytesFrom? (left : Nat) : List Char → Option TagBytes
  | [] => if left = 0 then some [] else none
  | '%' :: a :: b :: rest => do
    let byte := 16 * (← Numeral.digitIn? 16 a) + (← Numeral.digitIn? 16 b)
    let left ←
      if left = 0 then (width? byte).map (· - 1)
      else if 0x80 ≤ byte ∧ byte < 0xC0 then some (left - 1)
      else none
    return UInt8.ofNat byte :: (← bytesFrom? left rest)
  | c :: rest =>
    if left = 0 ∧ c ≠ '%' then (bytesFrom? 0 rest).map (UInt8.ofNat c.toNat :: ·) else none

/-- A suffix of at least one character, and the place after it. It may start in `read`, after its
first character; what follows a byte of zero is left out. -/
def suffix? (full : Bool) (read : List Char) (cur : Cursor) : Option (TagBytes × Cursor) := do
  let more := cur.rest.takeWhile (isSuffixChar full)
  if read = [] ∧ more = [] then none
  let bytes ← bytesFrom? 0 (read.drop 1 ++ more)
  return (bytes.takeWhile (· ≠ 0), cur.forward more.length)

/-- A handle is a name between exclamation marks, or just one of these; the name after a single
mark may also be the start of a suffix. -/
def readHandle (cur : Cursor) : Option (List Char × Cursor) :=
  match cur.rest with
  | '!' :: rest =>
    let name := rest.takeWhile isNameChar
    let closing := if (rest.drop name.length).head? = some '!' then ['!'] else []
    let handle := '!' :: name ++ closing
    some (handle, cur.forward handle.length)
  | _ => none

/-- A tag, and the place after it. -/
def read? (flow : Bool) (cur : Cursor) : Option (Tag × Cursor) := do
  let (tag, after) ←
    if cur.rest.take 2 = ['!', '<'] then do
      let (suffix, after) ← suffix? true [] (cur.forward 2)
      if after.rest.head? = some '>' then some ((⟨"", suffix⟩ : Tag), after.forward 1) else none
    else do
      let (handle, after) ← readHandle cur
      if 1 < handle.length ∧ handle.getLast? = some '!' then
        let (suffix, after) ← suffix? false [] after
        some ((⟨String.ofList handle, suffix⟩ : Tag), after)
      else
        let (suffix, after) ← suffix? false handle after
        some (if suffix = [] then (⟨"", .ofText "!"⟩ : Tag) else ⟨"!", suffix⟩, after)
  if startsBlank after.rest || (flow && after.rest.head? == some ',') then some (tag, after)
  else none

/-- The tag in full, where `handles` says what they stand for. -/
def resolve? (handles : List (String × TagBytes)) (tag : Tag) : Option TagBytes :=
  if tag.handle = "" then some tag.suffix
  else (handles.lookup tag.handle).map (· ++ tag.suffix)

/-- What handles stand for unless a document says otherwise. -/
def usualHandles : List (String × TagBytes) :=
  [("!", .ofText "!"), ("!!", .ofText "tag:yaml.org,2002:")]

end Tag

/-- A line that starts with a percent sign. -/
inductive Directive where
  | version (major minor : Nat)
  | handle (name : String) (start : TagBytes)
  deriving DecidableEq, Repr, Inhabited

namespace Directive

/-- At least one blank. -/
def blanks? (cur : Cursor) : Option Cursor :=
  let n := (cur.rest.takeWhile isSpace).length
  if n = 0 then none else some (cur.forward n)

/-- A number of at most nine digits, and the place after it. -/
def number? (cur : Cursor) : Option (Nat × Cursor) :=
  let digits := cur.rest.takeWhile Numeral.isDigit
  if digits ≠ [] ∧ digits.length ≤ 9 then
    some (Numeral.value digits, cur.forward digits.length)
  else none

def version? (cur : Cursor) : Option (Directive × Cursor) := do
  let (major, cur) ← number? (cur.forward (cur.rest.takeWhile isSpace).length)
  if cur.rest.head? ≠ some '.' then none
  let (minor, cur) ← number? (cur.forward 1)
  return (version major minor, cur)

def handle? (cur : Cursor) : Option (Directive × Cursor) := do
  let (name, cur) ← Tag.readHandle (cur.forward (cur.rest.takeWhile isSpace).length)
  if 1 < name.length ∧ name.getLast? ≠ some '!' then none
  let (start, cur) ← Tag.suffix? true [] (← blanks? cur)
  if !startsBlank cur.rest then none
  return (handle (String.ofList name) start, cur)

/-- A directive after its percent sign, and the start of the next line. -/
def read? (cur : Cursor) : Option (Directive × Cursor) := do
  let name := cur.rest.takeWhile isNameChar
  let cur := cur.forward name.length
  if !startsBlank cur.rest then none
  let (directive, cur) ←
    if name = "YAML".toList then version? cur
    else if name = "TAG".toList then handle? cur
    else none
  return (directive, ← cur.lineEnd?)

end Directive
end BattlePilot.Yaml
