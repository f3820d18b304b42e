import BattlePilot.Proofs.Screen.Samples

/-! Waiting for an element to vanish, by the samples that the wait takes. It is in vain exactly if
the element lingers: every sample up to the deadline shows it. -/

namespace BattlePilot.Screen

variable {s s' s₁ s₂ : Screen} {name : String} {timeout deadline : Span}

/-- The screen after `k` steps towards a deadline, with the rules applied that are due. -/
def towards? (s : Screen) (deadline : Span) : (k : Nat) → Option Screen
  | 0 => some s.settle
  | k + 1 => (s.towards? deadline k).bind fun s => s.sleep? (vanishStep.min (deadline.sub s.now))

/-- The first step may be taken before the steps are counted. -/
theorem towards?_succ (s : Screen) (deadline : Span) (k : Nat) :
    s.towards? deadline (k + 1) =
      (s.settle.sleep? (vanishStep.min (deadline.sub s.now))).bind (·.towards? deadline k) := by
  induction k with
  | zero =>
    rw [towards?, towards?, Option.bind_some]
    cases h : s.settle.sleep? (vanishStep.min (deadline.sub s.now)) with
    | none => exact h
    | some slept =>
      rw [Option.bind_some, towards?, settle_of_sleep? h]
      exact h
  | succ k ih =>
    rw [towards?, ih, Option.bind_assoc]
    rfl

theorem towards?_later
    (hslept : s.settle.sleep? (vanishStep.min (deadline.sub s.now)) = some s') (k : Nat) :
    s.towards? deadline (k + 1) = s'.towards? deadline k := by
  rw [towards?_succ, hslept, Option.bind_some]

/-- So many steps a wait takes at most. -/
def vanishSteps (timeout : Span) : Nat :=
  (timeout.nanos + (vanishStep.nanos - 1)) / vanishStep.nanos

/-- Every sample that a wait for `name` to vanish takes shows it, and the last one is `s'`. -/
def Lingers (s : Screen) (name : String) (timeout : Span) (s' : Screen) : Prop :=
  ∃ deadline, s.now.add? timeout = some deadline ∧
    s.towards? deadline (vanishSteps timeout) = some s' ∧
    ∀ k ≤ vanishSteps timeout, ∃ sample, s.towards? deadline k = some sample ∧
      sample.isVisible name = true

theorem vanishFrom?_eq_false_iff {steps : Nat} :
    vanishFrom? name deadline steps s = some (false, s') ↔
      s.towards? deadline steps = some s' ∧
        ∀ k ≤ steps, ∃ sample, s.towards? deadline k = some sample ∧
          sample.isVisible name = true := by
  induction steps generalizing s with
  | zero =>
    constructor
    · intro h
      obtain ⟨hseen, hs⟩ := Prod.mk.inj (Option.some.inj h)
      refine ⟨congrArg some hs, fun k hk => ?_⟩
      obtain rfl := Nat.le_zero.1 hk
      exact ⟨_, rfl, by simpa using hseen⟩
    · rintro ⟨hs, hseen⟩
      obtain ⟨_, hsample, hseen⟩ := hseen 0 (Nat.le_refl 0)
      cases hs
      cases hsample
      rw [vanishFrom?, hseen]
      rfl
  | succ steps ih =>
    cases hseen : s.settle.isVisible name with
    | false =>
      rw [vanishFrom?, if_neg (by simpa using hseen)]
      constructor
      · intro h
        cases h
      · rintro ⟨-, hall⟩
        obtain ⟨_, hsample, hshown⟩ := hall 0 (Nat.zero_le _)
        cases hsample
        rw [hseen] at hshown
        cases hshown
    | true =>
      have hstep : vanishFrom? name deadline (steps + 1) s =
          (s.settle.sleep? (vanishStep.min (deadline.sub s.now))).bind
            (vanishFrom? name deadline steps) := if_pos hseen
      rw [hstep, towards?_succ]
      cases hslept : s.settle.sleep? (vanishStep.min (deadline.sub s.now)) with
      | none => simp
      | some slept =>
        have hlater := towards?_later hslept
        rw [Option.bind_some, Option.bind_some, ih]
        refine and_congr_right fun _ => ⟨fun hall k hk => ?_, fun hall k hk => ?_⟩
        · cases k with
          | zero => exact ⟨_, rfl, hseen⟩
          | succ k =>
            rw [hlater]
            exact hall k (Nat.le_of_succ_le_succ hk)
        · rw [← hlater]
          exact hall (k + 1) (Nat.succ_le_succ hk)

/-- A wait is in vain exactly if the element lingers. -/
theorem waitVanish?_eq_false_iff :
    s.waitVanish? name timeout = some (false, s') ↔ s.Lingers name timeout s' := by
  rw [waitVanish?_eq, Option.bind_eq_some_iff]
  exact exists_congr fun deadline => and_congr_right fun _ => vanishFrom?_eq_false_iff

theorem Lingers.unique (h : s.Lingers name timeout s₁) (h' : s.Lingers name timeout s₂) :
    s₁ = s₂ := by
  rw [← waitVanish?_eq_false_iff] at h h'
  rw [h] at h'
  cases h'
  rfl

/-- An element lingers in so many waits, with a pause after each. -/
inductive Outlasts (name : String) (timeout pause : Span) : Nat → Screen → Screen → Prop
  | done {s : Screen} : Outlasts name timeout pause 0 s s
  | again {s s₁ s₂ s' : Screen} (hl : s.Lingers name timeout s₁) (hs : s₁.sleep? pause = some s₂)
    (h : Outlasts name timeout pause waits s₂ s') : Outlasts name timeout pause (waits + 1) s s'

end BattlePilot.Screen
