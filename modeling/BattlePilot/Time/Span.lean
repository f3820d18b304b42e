import BattlePilot.Number.Shortest

/-!
Spans of time, in whole nanoseconds below 2⁶⁴ seconds.
-/

namespace BattlePilot

/-- Nanoseconds of 2⁶⁴ seconds. -/
def Span.limit : Nat := UInt64.size * 1000000000

structure Span where
  nanos : Nat
  inRange : nanos < Span.limit
  deriving DecidableEq, Repr

namespace Span

def nanosPerSecond : Nat := 1000000000

def zero : Span := ⟨0, by decide⟩

instance : Inhabited Span := ⟨zero⟩

def ofNanos? (n : Nat) : Option Span :=
  if h : n < limit then some ⟨n, h⟩ else none

def ofSeconds (n : UInt64) : Span :=
  ⟨n.toNat * 1000000000, by have := n.toNat_lt_size; simp only [limit]; omega⟩

def ofMillis (n : UInt64) : Span :=
  ⟨n.toNat * 1000000, by have := n.toNat_lt_size; simp only [limit]; omega⟩

/-- The whole seconds. -/
def seconds (d : Span) : Nat := d.nanos / nanosPerSecond

/-- The nanoseconds beyond the whole seconds. -/
def subseconds (d : Span) : Nat := d.nanos % nanosPerSecond

def add? (a b : Span) : Option Span :=
  ofNanos? (a.nanos + b.nanos)

/-- The difference, nothing if `b` is the longer. -/
def sub (a b : Span) : Span :=
  ⟨a.nanos - b.nanos, by have := a.inRange; omega⟩

/-- The shorter of two. -/
def min (a b : Span) : Span :=
  if a.nanos ≤ b.nanos then a else b

def isZero (d : Span) : Bool := d.nanos == 0

/-- The span nearest to a magnitude of seconds, if it is below 2⁶⁴ seconds. -/
def ofMagnitude? (units : Nat) : Option Span :=
  ofNanos? (roundQuotient (units * nanosPerSecond) Binary64.one)

/-- The seconds as a magnitude: whole seconds and fraction are rounded, then their sum. -/
def magnitude (d : Span) : Nat :=
  Binary64.addUnits (Binary64.nearestUnits (d.seconds * Binary64.one) 1)
    (Binary64.nearestUnits (d.subseconds * Binary64.one) nanosPerSecond)

/-- Seconds as a decimal: an integer where there is no fraction, capped at 2⁶⁴ - 1, and the
shortest decimal otherwise. -/
def text (d : Span) : List Char :=
  if d.magnitude % Binary64.one = 0 then
    Numeral.digits (Nat.min (d.magnitude / Binary64.one) (UInt64.size - 1))
  else Binary64.shortestText d.magnitude

theorem ofNanos?_nanos (d : Span) : ofNanos? d.nanos = some d :=
  dif_pos d.inRange

theorem nanos_of_ofNanos? {n : Nat} {d : Span} (h : ofNanos? n = some d) : d.nanos = n := by
  obtain ⟨_, h⟩ := Option.dite_none_right_eq_some.1 h
  cases h
  rfl

theorem nanos_of_add? {a b d : Span} (h : a.add? b = some d) : d.nanos = a.nanos + b.nanos :=
  nanos_of_ofNanos? h

end Span
end BattlePilot
