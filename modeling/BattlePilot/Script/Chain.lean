/-!
Chains: links between dots. A dot inside parentheses belongs to its link.
-/

namespace BattlePilot.Script

/-- How deep in parentheses a text is after `c`; a closing one without partner is ignored. -/
def depthAfter (depth : Nat) (c : Char) : Nat :=
  if c = '(' then depth + 1 else if c = ')' then depth - 1 else depth

/-- The stretches of a text between dots outside parentheses, empty ones included; the text
begins `depth` deep. -/
def segmentsFrom (depth : Nat) : List Char → List (List Char)
  | [] => [[]]
  | c :: rest =>
    if c = '.' ∧ depth = 0 then [] :: segmentsFrom 0 rest
    else
      match segmentsFrom (depthAfter depth c) rest with
      | [] => [[c]]
      | segment :: more => (c :: segment) :: more

/-- The links of a chain. -/
def splitChain (cs : List Char) : List (List Char) :=
  (segmentsFrom 0 cs).filter (!·.isEmpty)

theorem segmentsFrom_ne_nil (depth : Nat) (cs : List Char) : segmentsFrom depth cs ≠ [] := by
  cases cs with
  | nil => simp [segmentsFrom]
  | cons c rest =>
    rw [segmentsFrom]
    split
    · simp
    · split <;> simp

end BattlePilot.Script
