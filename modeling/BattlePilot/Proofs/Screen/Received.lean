import BattlePilot.Proofs.Screen.Lasting
import BattlePilot.Proofs.Screen.Settle
import Mathlib.Data.List.Induction

/-! What the screen has received. Only an input is kept, and it is kept as it came. -/

namespace BattlePilot

def ScreenOp.input? : ScreenOp → Option Input
  | input i => some i
  | _ => none

/-- The label that is clicked. -/
def ScreenOp.clicked? : ScreenOp → Option String
  | input i => i.label?
  | _ => none

namespace Screen

theorem sleep?_inputs {s s' : Screen} (h : s.sleep? d = some s') : s'.inputs = s.inputs := by
  obtain ⟨now, _, rfl⟩ := Option.map_eq_some_iff.1 h
  rfl

theorem lasting_inputs (inputs : List Input) : Lasting (·.inputs = inputs) where
  settle h := h
  sleep hslept h := (sleep?_inputs hslept).trans h
  hide h := h

theorem lasting_clicks (clicks : List (String × Nat)) : Lasting (·.clicks = clicks) where
  settle h := h
  sleep hslept h := by
    obtain ⟨now, -, rfl⟩ := Option.map_eq_some_iff.1 hslept
    exact h
  hide h := h

theorem countClick?_inputs {s s' : Screen} (h : s.countClick? label = some s') :
    s'.inputs = s.inputs := by
  obtain ⟨_, h⟩ := Option.ite_none_right_eq_some.1 h
  cases h
  rfl

theorem receive?_inputs {s s' : Screen} (h : s.receive? input = some s') :
    s'.inputs = input :: s.inputs := by
  cases input with
  | click | doubleClick => exact countClick?_inputs h
  | scroll | home => cases h; rfl

/-- An operation adds the input that it sends, and nothing else. -/
theorem perform?_inputs {s s' : Screen} {op : ScreenOp} (h : s.perform? op = some (answer, s')) :
    s'.inputs = op.input?.toList ++ s.inputs := by
  cases op with
  | input i =>
    obtain ⟨s₁, h₁, h⟩ := Option.map_eq_some_iff.1 h
    cases h
    exact receive?_inputs h₁
  | _ => exact (lasting_inputs s.inputs).performed rfl (fun _ hop => by cases hop) h

theorem performAll?_append (s : Screen) (ops ops' : List ScreenOp) :
    s.performAll? (ops ++ ops') = (s.performAll? ops).bind (·.performAll? ops') :=
  List.foldlM_append

theorem performAll?_concat (s : Screen) (ops : List ScreenOp) (op : ScreenOp) :
    s.performAll? (ops ++ [op]) =
      (s.performAll? ops).bind fun s => (s.perform? op).map (·.2) := by
  simp [performAll?, List.foldlM_append]

/-- What holds at the start, and of every operation if it holds before it, holds after a run. -/
theorem performAll?_induct {P : List ScreenOp → Screen → Prop} {s s' : Screen} (hstart : P [] s)
    (hstep : ∀ ops s op answer s', P ops s → s.perform? op = some (answer, s') → P (ops ++ [op]) s')
    {ops : List ScreenOp} (h : s.performAll? ops = some s') : P ops s' := by
  induction ops using List.reverseRecOn generalizing s' with
  | nil =>
    cases h
    exact hstart
  | append_singleton ops op ih =>
    rw [performAll?_concat] at h
    obtain ⟨before, hbefore, h⟩ := Option.bind_eq_some_iff.1 h
    obtain ⟨⟨answer, after⟩, hperformed, h⟩ := Option.map_eq_some_iff.1 h
    cases h
    exact hstep ops before op answer after (ih hbefore) hperformed

end Screen
end BattlePilot
