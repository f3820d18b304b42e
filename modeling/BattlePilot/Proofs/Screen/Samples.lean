import BattlePilot.Proofs.Screen.Clock
import BattlePilot.Proofs.Screen.Received

/-! Samples of a screen: what it shows after so many pauses of one length. A search with patience
finds an element in the first sample that shows it, or in none of those that it looks at. -/

namespace BattlePilot.Screen

theorem settle_settle (s : Screen) : s.settle.settle = s.settle := s.settle_settled.settle_eq

/-- The clock rules of a screen that has slept are applied. -/
theorem settle_of_sleep? {s s' : Screen} (h : s.sleep? d = some s') : s'.settle = s' := by
  obtain ⟨now, -, rfl⟩ := Option.map_eq_some_iff.1 h
  exact settle_settle _

/-- The screen after `k` pauses, with the rules applied that are due; nothing if the clock cannot
hold them. -/
def sample? (s : Screen) (pause : Span) : (k : Nat) → Option Screen
  | 0 => some s.settle
  | k + 1 => (s.sample? pause k).bind (·.sleep? pause)

variable {s s' : Screen} {pause : Span} {name : String}

theorem settle_of_sample? {k : Nat} (h : s.sample? pause k = some s') : s'.settle = s' := by
  cases k with
  | zero =>
    cases h
    exact settle_settle s
  | succ k =>
    obtain ⟨before, -, hslept⟩ := Option.bind_eq_some_iff.1 h
    exact settle_of_sleep? hslept

/-- Samples of a sample are later samples. -/
theorem sample?_add {s₁ : Screen} {j : Nat} (h : s.sample? pause j = some s₁) (k : Nat) :
    s.sample? pause (j + k) = s₁.sample? pause k := by
  induction k with
  | zero => exact h.trans (congrArg some (settle_of_sample? h).symm)
  | succ k ih => exact congrArg (·.bind (·.sleep? pause)) ih

theorem sample?_now {k : Nat} (h : s.sample? pause k = some s') :
    s'.now.nanos = s.now.nanos + k * pause.nanos := by
  induction k generalizing s' with
  | zero =>
    cases h
    simp
  | succ k ih =>
    obtain ⟨before, hbefore, hslept⟩ := Option.bind_eq_some_iff.1 h
    rw [sleep?_now hslept, ih hbefore, Nat.succ_mul, Nat.add_assoc]

theorem sample?_inputs {k : Nat} (h : s.sample? pause k = some s') : s'.inputs = s.inputs := by
  induction k generalizing s' with
  | zero =>
    cases h
    rfl
  | succ k ih =>
    obtain ⟨before, hbefore, hslept⟩ := Option.bind_eq_some_iff.1 h
    rw [sleep?_inputs hslept, ih hbefore]

/-- The first `n` samples can be taken, and `name` is visible in none of them. -/
def HiddenFor (s : Screen) (pause : Span) (name : String) (n : Nat) : Prop :=
  ∀ k < n, ∃ s', s.sample? pause k = some s' ∧ s'.isVisible name = false

/-- Where a search for `name` ends that looks at so many samples at most: in the first one that
shows it, with its position, or else in the last one. -/
inductive Sought (s : Screen) (pause : Span) (name : String) (tries : Nat) :
    Option Point → Screen → Prop
  | found (hk : k < tries) (hs : s.sample? pause k = some s₁) (hseen : s₁.isVisible name = true)
    (hbefore : s.HiddenFor pause name k) : Sought s pause name tries (some (s₁.position name)) s₁
  | missed (hs : s.sample? pause (tries - 1) = some s₁) (hhidden : s.HiddenFor pause name tries) :
    Sought s pause name tries none s₁

/-- An element that a sample shows is not hidden as long. -/
theorem HiddenFor.lt {n k : Nat} (h : s.HiddenFor pause name n) (hs : s.sample? pause k = some s')
    (hseen : s'.isVisible name = true) : n ≤ k := by
  refine Nat.le_of_not_lt fun hk => ?_
  obtain ⟨other, hother, hhidden⟩ := h k hk
  rw [hs] at hother
  cases hother
  rw [hseen] at hhidden
  cases hhidden

theorem Sought.unique {tries : Nat} (h : s.Sought pause name tries answer s₁)
    (h' : s.Sought pause name tries answer' s₂) : answer = answer' ∧ s₁ = s₂ := by
  cases h with
  | @found k s₁ hk hs hseen hbefore =>
    cases h' with
    | @found k' s₂ hk' hs' hseen' hbefore' =>
      have hsame : k = k' := Nat.le_antisymm (hbefore.lt hs' hseen') (hbefore'.lt hs hseen)
      subst hsame
      rw [hs] at hs'
      cases hs'
      exact ⟨rfl, rfl⟩
    | missed hs' hhidden => exact absurd hk (Nat.not_lt.2 (hhidden.lt hs hseen))
  | missed hs hhidden =>
    cases h' with
    | found hk' hs' hseen' _ => exact absurd hk' (Nat.not_lt.2 (hhidden.lt hs' hseen'))
    | missed hs' _ =>
      rw [hs] at hs'
      cases hs'
      exact ⟨rfl, rfl⟩

/-- A search ends in a sample. -/
theorem Sought.sampled {tries : Nat} (h : s.Sought pause name tries answer s') :
    ∃ k ≤ tries - 1, s.sample? pause k = some s' := by
  cases h with
  | found hk hs => exact ⟨_, Nat.le_sub_one_of_lt hk, hs⟩
  | missed hs => exact ⟨_, Nat.le_refl _, hs⟩

theorem Sought.inputs {tries : Nat} (h : s.Sought pause name tries answer s') :
    s'.inputs = s.inputs := by
  obtain ⟨k, -, hs⟩ := h.sampled
  exact sample?_inputs hs

/-- The clock stops a search: after looks in vain there is a sample that cannot be taken. -/
def CutShort (s : Screen) (pause : Span) (name : String) (tries : Nat) : Prop :=
  ∃ k < tries, s.sample? pause k = none ∧ s.HiddenFor pause name k

theorem CutShort.not_sought {tries : Nat} (h : s.CutShort pause name tries) :
    ¬ s.Sought pause name tries answer s' := by
  obtain ⟨k, hk, hnone, hbefore⟩ := h
  have absurd_hidden {n : Nat} (hn : k < n) (hhidden : s.HiddenFor pause name n) : False := by
    obtain ⟨_, htaken, -⟩ := hhidden k hn
    rw [hnone] at htaken
    cases htaken
  intro hsought
  cases hsought with
  | @found k' _ hk' hs hseen hhidden =>
    have hle := hbefore.lt hs hseen
    rcases Nat.lt_or_eq_of_le hle with hlt | rfl
    · exact absurd_hidden hlt hhidden
    · rw [hnone] at hs
      cases hs
  | missed _ hhidden => exact absurd_hidden hk hhidden

end BattlePilot.Screen
