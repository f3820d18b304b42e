import BattlePilot.Proofs.Screen.Lasting
import BattlePilot.Proofs.Screen.Settle

/-! The clock of a screen, which never goes back. Waiting for an element to vanish is a matter of
the clock alone: the number of steps that the wait is given is the number that it takes to reach
its deadline. -/

namespace BattlePilot

namespace Screen

/-! ### The clock goes on -/

@[simp] theorem settle_now (s : Screen) : s.settle.now = s.now := rfl

theorem sleep?_now {s s' : Screen} (h : s.sleep? d = some s') :
    s'.now.nanos = s.now.nanos + d.nanos := by
  obtain ⟨now, hnow, rfl⟩ := Option.map_eq_some_iff.1 h
  exact Span.nanos_of_add? hnow

theorem lasting_now_le (start : Nat) : Lasting (start ≤ ·.now.nanos) where
  settle h := h
  sleep hslept h := by
    rw [sleep?_now hslept]
    exact Nat.le_add_right_of_le h
  hide h := h

theorem receive?_now {s s' : Screen} (h : s.receive? input = some s') : s'.now = s.now := by
  cases input with
  | click | doubleClick =>
    obtain ⟨_, h⟩ := Option.ite_none_right_eq_some.1 h
    cases h
    rfl
  | scroll | home =>
    cases h
    rfl

/-- No operation turns the clock back. -/
theorem perform?_now_le {s s' : Screen} {op : ScreenOp} (h : s.perform? op = some (answer, s')) :
    s.now.nanos ≤ s'.now.nanos :=
  (lasting_now_le s.now.nanos).performed (Nat.le_refl _)
    (fun _ _ hreceived => Nat.le_of_eq (congrArg Span.nanos (receive?_now hreceived)).symm) h

theorem perform?_sleep_now {s s' : Screen} (h : s.perform? (.sleep d) = some (answer, s')) :
    s'.now.nanos = s.now.nanos + d.nanos := by
  obtain ⟨s₁, h₁, h⟩ := Option.map_eq_some_iff.1 h
  cases h
  exact sleep?_now h₁

/-! ### Waiting by the clock -/

/-- Waiting until `name` is gone or the deadline has come, in steps of the longest time between two
looks; the last one may be shorter. Nothing bounds the number of steps but the clock. -/
inductive Vanishing (name : String) (deadline : Span) : Screen → Bool × Screen → Prop
  | gone (h : s.settle.isVisible name = false) : Vanishing name deadline s (true, s.settle)
  | late (h : s.settle.isVisible name = true) (hd : deadline.nanos ≤ s.now.nanos) :
    Vanishing name deadline s (false, s.settle)
  | again (h : s.settle.isVisible name = true) (hd : s.now.nanos < deadline.nanos)
    (hs : s.settle.sleep? (vanishStep.min (deadline.sub s.now)) = some s')
    (hr : Vanishing name deadline s' r) : Vanishing name deadline s r

/-- Steps that are still to be taken towards a deadline. -/
def stepsTo (deadline : Span) (s : Screen) : Nat :=
  (deadline.nanos - s.now.nanos + (vanishStep.nanos - 1)) / vanishStep.nanos

theorem vanishStep_nanos : vanishStep.nanos = 1000000000 := rfl

theorem stepsTo_eq_zero_iff {s : Screen} :
    stepsTo deadline s = 0 ↔ deadline.nanos ≤ s.now.nanos := by
  rw [stepsTo, vanishStep_nanos]
  omega

theorem min_nanos (a b : Span) : (a.min b).nanos = Min.min a.nanos b.nanos := by
  rw [Span.min]
  split
  · next h => exact (Nat.min_eq_left h).symm
  · next h => exact (Nat.min_eq_right (Nat.le_of_not_le h)).symm

/-- One step less is to be taken after a step towards a deadline that has not come. -/
theorem stepsTo_step {s s' : Screen} (hd : s.now.nanos < deadline.nanos)
    (hs : s.sleep? (vanishStep.min (deadline.sub s.now)) = some s') :
    s'.now.nanos ≤ deadline.nanos ∧ stepsTo deadline s = stepsTo deadline s' + 1 := by
  have hnow := sleep?_now hs
  have hsub : (deadline.sub s.now).nanos = deadline.nanos - s.now.nanos := rfl
  rw [min_nanos, vanishStep_nanos, hsub] at hnow
  rw [stepsTo, stepsTo, vanishStep_nanos]
  omega

/-- The clock can hold a time before a deadline. -/
theorem sleep?_towards {s : Screen} (deadline : Span) (hd : s.now.nanos ≤ deadline.nanos) :
    ∃ s', s.sleep? (vanishStep.min (deadline.sub s.now)) = some s' := by
  have hle : (vanishStep.min (deadline.sub s.now)).nanos ≤ deadline.nanos - s.now.nanos := by
    rw [min_nanos]
    exact Nat.min_le_right ..
  have hrange : s.now.nanos + (vanishStep.min (deadline.sub s.now)).nanos < Span.limit := by
    have hdeadline := deadline.inRange
    omega
  have hadd : s.now.add? (vanishStep.min (deadline.sub s.now)) = some ⟨_, hrange⟩ := dif_pos hrange
  rw [sleep?, hadd]
  exact ⟨_, rfl⟩

theorem vanishFrom?_vanishing {steps : Nat} {s : Screen} (hd : s.now.nanos ≤ deadline.nanos)
    (hsteps : stepsTo deadline s = steps) :
    ∃ r, vanishFrom? name deadline steps s = some r ∧ Vanishing name deadline s r := by
  induction steps generalizing s with
  | zero =>
    have hcome := stepsTo_eq_zero_iff.1 hsteps
    cases hseen : s.settle.isVisible name with
    | true => exact ⟨(false, s.settle), by simp [vanishFrom?, hseen], .late hseen hcome⟩
    | false => exact ⟨(true, s.settle), by simp [vanishFrom?, hseen], .gone hseen⟩
  | succ steps ih =>
    have hahead : s.now.nanos < deadline.nanos := by
      rw [← Nat.not_le, ← stepsTo_eq_zero_iff, hsteps]
      exact Nat.succ_ne_zero steps
    cases hseen : s.settle.isVisible name with
    | true =>
      obtain ⟨s', hslept⟩ := sleep?_towards (s := s.settle) deadline hd
      obtain ⟨hle, hleft⟩ := stepsTo_step (s := s.settle) hahead hslept
      have hleft' : stepsTo deadline s.settle = steps + 1 := hsteps
      rw [hleft'] at hleft
      obtain ⟨r, hr, hvanishing⟩ := ih hle (Nat.succ.inj hleft).symm
      refine ⟨r, ?_, .again hseen hahead hslept hvanishing⟩
      rw [vanishFrom?, if_pos hseen, hslept]
      exact hr
    | false => exact ⟨(true, s.settle), by simp [vanishFrom?, hseen], .gone hseen⟩

theorem stepsTo_deadline {s : Screen} (h : s.now.add? timeout = some deadline) :
    stepsTo deadline s = (timeout.nanos + (vanishStep.nanos - 1)) / vanishStep.nanos := by
  rw [stepsTo, Span.nanos_of_add? h, Nat.add_sub_cancel_left]

theorem waitVanish?_eq (s : Screen) (name : String) (timeout : Span) :
    s.waitVanish? name timeout = (s.now.add? timeout).bind fun deadline =>
      vanishFrom? name deadline ((timeout.nanos + (vanishStep.nanos - 1)) / vanishStep.nanos) s :=
  rfl

/-- A wait whose deadline the clock can hold comes to its end, and only the clock bounds it. -/
theorem waitVanish?_vanishing {s : Screen} (name : String)
    (h : s.now.add? timeout = some deadline) :
    ∃ r, s.waitVanish? name timeout = some r ∧ Vanishing name deadline s r := by
  rw [waitVanish?_eq, h, Option.bind_some, ← stepsTo_deadline h]
  refine vanishFrom?_vanishing ?_ rfl
  rw [Span.nanos_of_add? h]
  exact Nat.le_add_right ..

end Screen
end BattlePilot
