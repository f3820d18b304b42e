/-!
Decimal numerals of naturals: writing, and reading within a bound.
-/

namespace BattlePilot.Numeral

/-- The decimal digits of `n`, without leading zeros. -/
def digits (n : Nat) : List Char :=
  Nat.toDigits 10 n

def text (n : Nat) : String :=
  String.ofList (digits n)

/-- At least `width` digits, filled up with zeros on the left. -/
def padded (width n : Nat) : List Char :=
  List.replicate (width - (digits n).length) '0' ++ digits n

def isDigit (c : Char) : Bool :=
  '0' ≤ c && c ≤ '9'

def digitValue (c : Char) : Nat :=
  c.toNat - '0'.toNat

/-- The value of a run of digits. -/
def value (cs : List Char) : Nat :=
  cs.foldl (fun acc c => 10 * acc + digitValue c) 0

/-- The value of a digit in a base of at most sixteen; letters of either case follow nine. -/
def digitIn? (base : Nat) (c : Char) : Option Nat :=
  let n :=
    if isDigit c then digitValue c
    else if 'a' ≤ c ∧ c ≤ 'f' then c.toNat - 'a'.toNat + 10
    else if 'A' ≤ c ∧ c ≤ 'F' then c.toNat - 'A'.toNat + 10
    else base
  if n < base then some n else none

/-- What follows one plus sign, or the whole text if there is none. -/
def dropPlus : List Char → List Char
  | '+' :: rest => rest
  | cs => cs

/-- A non-empty run of digits, after at most one plus sign, whose value is below `bound`. -/
def read? (bound : Nat) (cs : List Char) : Option Nat :=
  let body := dropPlus cs
  if body ≠ [] ∧ body.all isDigit ∧ value body < bound then some (value body) else none

end BattlePilot.Numeral
