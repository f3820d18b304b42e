import BattlePilot.Number.Numeral
import BattlePilot.Yaml.Cursor

/-!
Scalars: plain, and in single or double quotes. Blanks between the words of a scalar are kept
within a line; where a line ends, they go, and the lines are joined.
-/

namespace BattlePilot.Yaml

/-- Blanks since the last word, backwards. Once the line has ended, `lead` holds the break that
ended it, or nothing if the break was escaped, and `later` the breaks after it. -/
structure Gap where
  blanks : List Char
  lead : Option (List Char)
  later : List Char

namespace Gap

def none : Gap := ⟨[], .none, []⟩

def push (g : Gap) (c : Char) : Gap :=
  match isBreak c, g.lead with
  | true, .none => ⟨[], some [c], []⟩
  | true, some _ => { g with later := c :: g.later }
  | false, .none => { g with blanks := c :: g.blanks }
  | false, some _ => g

/-- What is read, backwards, with the gap before a further word: one line end becomes a space, and
of more line ends all but the first remain. -/
def after (acc : List Char) (g : Gap) : List Char :=
  match g.lead with
  | .none => g.blanks ++ acc
  | some ['\n'] => if g.later = [] then ' ' :: acc else g.later ++ acc
  | some lead => g.later ++ (lead ++ acc)

end Gap

/-- A scalar that has been read: the place after it, and whether a key may start there before any
further line does. -/
structure Scanned where
  text : List Char
  cursor : Cursor
  keyAllowed : Bool

/-- The characters that a letter after a backslash stands for. -/
def simpleEscape? (c : Char) : Option Char :=
  let codes : List (Char × Nat) :=
    [('0', 0), ('a', 7), ('b', 8), ('t', 9), ('\t', 9), ('n', 10), ('v', 11), ('f', 12),
      ('r', 13), ('e', 27), (' ', 32), ('"', 34), ('/', 47), ('\\', 92), ('N', 0x85),
      ('_', 0xA0), ('L', 0x2028), ('P', 0x2029)]
  (codes.find? (·.1 == c)).map fun entry => Char.ofNat entry.2

/-- How many hexadecimal digits follow a letter after a backslash. -/
def escapeWidth? (c : Char) : Option Nat :=
  if c = 'x' then some 2 else if c = 'u' then some 4 else if c = 'U' then some 8 else none

/-- The character of a number, unless it is a surrogate or too large. -/
def charOf? (n : Nat) : Option Char :=
  if (0xD800 ≤ n ∧ n ≤ 0xDFFF) ∨ 0x10FFFF < n then none else some (Char.ofNat n)

/-- What the reader of a double-quoted scalar is in the midst of. -/
inductive Quoting where
  | plain
  | escape
  /-- `left` digits of a number are to come. -/
  | number (left value : Nat)

/-- A double-quoted scalar after its opening quote; `acc` holds what has been read, backwards. -/
def doubleQuoted (acc : List Char) (gap : Gap) (state : Quoting) (cur : Cursor) :
    List Char → Option Scanned
  | [] => none
  | c :: rest =>
    let next := cur.step c rest
    match state with
    | .plain =>
      if Cursor.atDocumentMark { cur with rest := c :: rest } then none
      else if isSpace c || isBreak c then doubleQuoted acc (gap.push c) .plain next rest
      else
        let acc := gap.after acc
        if c = '"' then some ⟨acc.reverse, next, false⟩
        else if c = '\\' then doubleQuoted acc .none .escape next rest
        else doubleQuoted (c :: acc) .none .plain next rest
    | .escape =>
      if isBreak c then doubleQuoted acc ⟨[], some [], []⟩ .plain next rest
      else
        match simpleEscape? c, escapeWidth? c with
        | some e, _ => doubleQuoted (e :: acc) .none .plain next rest
        | none, some width => doubleQuoted acc .none (.number width 0) next rest
        | none, none => none
    | .number left value =>
      match Numeral.digitIn? 16 c with
      | none => none
      | some d =>
        if left = 1 then
          match charOf? (16 * value + d) with
          | some e => doubleQuoted (e :: acc) .none .plain next rest
          | none => none
        else doubleQuoted acc .none (.number (left - 1) (16 * value + d)) next rest

def quoteMark : Char := Char.ofNat 0x27

/-- A single-quoted scalar after its opening quote; `closing` holds after a quote that ends the
scalar unless another one follows. -/
def singleQuoted (acc : List Char) (gap : Gap) (closing : Bool) (cur : Cursor) :
    List Char → Option Scanned
  | [] => if closing then some ⟨acc.reverse, cur, false⟩ else none
  | c :: rest =>
    let next := cur.step c rest
    if closing then
      if c = quoteMark then singleQuoted (quoteMark :: acc) .none false next rest
      else some ⟨acc.reverse, cur, false⟩
    else if Cursor.atDocumentMark { cur with rest := c :: rest } then none
    else if isSpace c || isBreak c then singleQuoted acc (gap.push c) false next rest
    else
      let acc := gap.after acc
      if c = quoteMark then singleQuoted acc .none true next rest
      else singleQuoted (c :: acc) .none false next rest

/-- Whether a plain scalar ends before a character that is no blank: where a comment starts, at a
colon that a blank follows, at a mark of brackets inside them, and on a later line that is less
indented, outside brackets, or that starts or ends a document. -/
def endsPlain (flow : Bool) (least : Nat) (gap : Gap) (cur : Cursor) (c : Char)
    (rest : List Char) : Bool :=
  (gap.lead.isSome &&
    ((!flow && cur.column < least) || Cursor.atDocumentMark { cur with rest := c :: rest })) ||
  (c == '#' && (!gap.blanks.isEmpty || gap.lead.isSome)) ||
  (c == ':' && startsBlank rest) ||
  (flow && isFlowMark c)

/-- A plain scalar, whose later lines are indented by `least` at least: with spaces, and without
them only inside brackets; `acc` holds what has been read, backwards. -/
def plain (flow : Bool) (least : Nat) (acc : List Char) (gap : Gap) (cur : Cursor) :
    List Char → Option Scanned
  | [] => some ⟨acc.reverse, { cur with rest := [] }, gap.lead.isSome⟩
  | c :: rest =>
    let next := cur.step c rest
    if isBreak c then plain flow least acc (gap.push c) next rest
    else if isSpace c then
      if c = '\t' && gap.lead.isSome && cur.column < least then none
      else plain flow least acc (gap.push c) next rest
    else if endsPlain flow least gap cur c rest then
      some ⟨acc.reverse, { cur with rest := c :: rest }, gap.lead.isSome⟩
    else if flow && c = ':' && (rest.head?.any fun d => isFlowMark d || d == '?') then none
    else plain flow least (c :: gap.after acc) .none next rest

/-- Whether a plain scalar can start here, where no mark with a meaning of its own does. -/
def startsPlain (flow : Bool) : List Char → Bool
  | [] => false
  | c :: rest =>
    if c = '-' then !startsBlank rest
    else if c = '?' ∨ c = ':' then !flow && !startsBlank rest
    else !(isFlowMark c || isSpace c || isBreak c ||
      ['#', '&', '*', '!', '|', '>', '"', '%', '@', '\x60', quoteMark].contains c)

end BattlePilot.Yaml
