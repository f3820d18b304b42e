/-!
Places in the text of a YAML document, and what can be skipped from there.
-/

namespace BattlePilot.Yaml

/-- The text from a place on, with the line and column of that place and the number of bytes
before it. -/
structure Cursor where
  rest : List Char
  line : Nat
  column : Nat
  offset : Nat

/-- Characters that a document may hold. -/
def isAllowed (c : Char) : Bool :=
  let n := c.toNat
  n == 0x9 || n == 0xA || n == 0xD || (0x20 ≤ n && n ≤ 0x7E) || n == 0x85 ||
    (0xA0 ≤ n && n ≤ 0xFFFD) || 0x10000 ≤ n

/-- Line ends are written in several ways; the common ones are read as a line feed. Before the
text stands `acc`, backwards. -/
def normalizeBreaks (acc : List Char) : List Char → List Char
  | [] => acc.reverse
  | '\r' :: '\n' :: rest => normalizeBreaks ('\n' :: acc) rest
  | c :: rest => normalizeBreaks ((if c = '\r' ∨ c.toNat = 0x85 then '\n' else c) :: acc) rest

def isBreak (c : Char) : Bool :=
  c == '\n' || c.toNat == 0x2028 || c.toNat == 0x2029

def isSpace (c : Char) : Bool :=
  c == ' ' || c == '\t'

def isByteOrderMark (c : Char) : Bool :=
  c.toNat == 0xFEFF

/-- Whether a text starts with a space, a break or its end. -/
def startsBlank : List Char → Bool
  | [] => true
  | c :: _ => isSpace c || isBreak c

def isFlowMark (c : Char) : Bool :=
  c == ',' || c == '[' || c == ']' || c == '\x7b' || c == '\x7d'

namespace Cursor

/-- The place where a text starts. -/
def start (text : List Char) : Cursor :=
  ⟨text, 0, 0, 0⟩

/-- The place after `c`, the first character of the rest. -/
def step (cur : Cursor) (c : Char) (rest : List Char) : Cursor :=
  if isBreak c then ⟨rest, cur.line + 1, 0, cur.offset + c.utf8Size⟩
  else ⟨rest, cur.line, cur.column + 1, cur.offset + c.utf8Size⟩

/-- The place after `n` characters of the same line, each of one byte. -/
def forward (n : Nat) (cur : Cursor) : Cursor :=
  ⟨cur.rest.drop n, cur.line, cur.column + n, cur.offset + n⟩

/-- What is left of the line, and the place where it ends. -/
def takeLine (cur : Cursor) : List Char × Cursor :=
  let line := cur.rest.takeWhile (!isBreak ·)
  (line, ⟨cur.rest.drop line.length, cur.line, cur.column + line.length,
    line.foldl (fun offset c => offset + c.utf8Size) cur.offset⟩)

/-- The next place that is neither space nor comment, and whether a key may start there: outside
brackets, one may on every new line. Tabs are space inside brackets and where no key may start,
and a line may start with a byte order mark. -/
def skipFrom (flow keyAllowed comment : Bool) (line column offset : Nat) :
    List Char → Cursor × Bool
  | [] => (⟨[], line, column, offset⟩, keyAllowed)
  | c :: rest =>
    let offset' := offset + c.utf8Size
    if isBreak c then skipFrom flow (keyAllowed || !flow) false (line + 1) 0 offset' rest
    else if comment ∨ c = ' ' ∨ c = '\t' ∧ (flow ∨ !keyAllowed) ∨
        column = 0 ∧ isByteOrderMark c then
      skipFrom flow keyAllowed comment line (column + 1) offset' rest
    else if c = '#' then skipFrom flow keyAllowed true line (column + 1) offset' rest
    else (⟨c :: rest, line, column, offset⟩, keyAllowed)

def skip (flow keyAllowed : Bool) (cur : Cursor) : Cursor × Bool :=
  skipFrom flow keyAllowed false cur.line cur.column cur.offset cur.rest

/-- Whether a line that consists of `mark` or starts with it and a blank is here. -/
def atLineMark (mark : Char) (cur : Cursor) : Bool :=
  cur.column == 0 && cur.rest.take 3 == [mark, mark, mark] && startsBlank (cur.rest.drop 3)

/-- Whether a line starts here that starts or ends a document. -/
def atDocumentMark (cur : Cursor) : Bool :=
  cur.atLineMark '-' || cur.atLineMark '.'

/-- The place after a comment or the blanks at the end of a line, and after the break that ends
it. -/
def lineEnd? (cur : Cursor) : Option Cursor :=
  let blanks := (cur.rest.takeWhile isSpace).length
  let cur := cur.forward blanks
  let cur := if cur.rest.head? = some '#' then cur.takeLine.2 else cur
  match cur.rest with
  | [] => some cur
  | c :: rest => if isBreak c then some (cur.step c rest) else none

end Cursor
end BattlePilot.Yaml
