import BattlePilot.Yaml.Text

/-!
Literal and folded scalars: the lines below a mark that are indented further than what is around
them. A literal scalar keeps its line ends; in a folded one, the end of a line before another one
becomes a space, unless one of the two starts with a blank.
-/

namespace BattlePilot.Yaml

/-- What becomes of the line ends after the last line. -/
inductive Chomping where
  | strip
  /-- The last line keeps its end. -/
  | clip
  | keep
  deriving DecidableEq

namespace Chomping

def ofChar? (c : Char) : Option Chomping :=
  if c = '+' then some keep else if c = '-' then some strip else none

end Chomping

/-- What may follow the mark of a literal or folded scalar, in either order: how it ends, and by
how much it is indented. -/
structure LiteralHeader where
  chomping : Chomping
  indent : Option Nat

namespace LiteralHeader

/-- A digit from one to nine, if there is a digit. -/
def indent? : List Char → Option (Option Nat)
  | c :: _ =>
    if !Numeral.isDigit c then some none
    else if c = '0' then none
    else some (some (Numeral.digitValue c))
  | [] => some none

/-- The header, and how many characters it has. -/
def read? (cs : List Char) : Option (LiteralHeader × Nat) :=
  match cs.head?.bind Chomping.ofChar? with
  | some chomping =>
    (indent? (cs.drop 1)).map fun indent =>
      (⟨chomping, indent⟩, if indent.isSome then 2 else 1)
  | none =>
    (indent? cs).map fun indent =>
      if indent.isNone then (⟨.clip, none⟩, 0)
      else
        match (cs.drop 1).head?.bind Chomping.ofChar? with
        | some chomping => (⟨chomping, indent⟩, 2)
        | none => (⟨.clip, indent⟩, 1)

end LiteralHeader

/-- The breaks up to a line with more than indentation, backwards, the greatest indentation among
these lines, and the place where that line starts. An indentation that is not known is as large as can
be; it consists of spaces. -/
def blankLines (indent : Option Nat) (breaks : List Char) (most : Nat) (cur : Cursor) :
    List Char → Option (List Char × Nat × Cursor)
  | [] => some (breaks, max most cur.column, { cur with rest := [] })
  | c :: rest =>
    let next := cur.step c rest
    let within := indent.all (cur.column < ·)
    if c = ' ' && within then blankLines indent breaks most next rest
    else if c = '\t' && within then none
    else
      let most := max most cur.column
      if isBreak c then blankLines indent (c :: breaks) most next rest
      else some (breaks, most, { cur with rest := c :: rest })

/-- Lines in the column `indent`. Before them stand `text`, the break `lead` that ends the line
before, and then `breaks`, all backwards; `blank` holds if that line starts with a blank. -/
def literalLines (fuel : Nat) (folded : Bool) (indent : Nat) (text lead breaks : List Char)
    (blank : Bool) (cur : Cursor) : Option (List Char × List Char × List Char × Cursor) :=
  match fuel, cur.rest with
  | 0, _ => none
  | _, [] => some (text, lead, breaks, cur)
  | fuel + 1, c :: _ =>
    if cur.column ≠ indent then some (text, lead, breaks, cur)
    else
      let gap : List Char :=
        if folded && lead = ['\n'] && !blank && !isSpace c then
          if breaks = [] then [' '] else breaks
        else breaks ++ lead
      let (line, after) := cur.takeLine
      let text := line.reverse ++ (gap ++ text)
      match after.rest with
      | [] => some (text, [], [], after)
      | d :: rest => do
        let after := after.step d rest
        let (breaks, _, after) ← blankLines (some indent) [] 0 after after.rest
        literalLines fuel folded indent text [d] breaks (isSpace c) after

/-- A literal or folded scalar after its mark, where `least` is the least column of something
further indented than what is around it. -/
def literal (folded : Bool) (least : Nat) (cur : Cursor) : Option Scanned := do
  let (header, width) ← LiteralHeader.read? cur.rest
  let cur ← (cur.forward width).lineEnd?
  let given := header.indent.map (least - 1 + ·)
  let (breaks, most, cur) ← blankLines given [] 0 cur cur.rest
  let indent := given.getD (max most (max least 1))
  let (text, lead, breaks, cur) ←
    literalLines (cur.rest.length + 1) folded indent [] [] breaks false cur
  let tail := match header.chomping with
    | .strip => []
    | .clip => lead
    | .keep => breaks ++ lead
  return ⟨(tail ++ text).reverse, cur, true⟩

end BattlePilot.Yaml
