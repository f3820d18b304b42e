import BattlePilot.Screen.Basic

/-! Looking at a screen settles it. On a settled screen every clock rule whose time has come has
been applied, so that looking again changes nothing. -/

namespace BattlePilot.Screen

/-- No rule waits for a time that has come. -/
def Settled (s : Screen) : Prop := ∀ r ∈ s.rules, dueByClock s.now r = false

theorem applyDue_eq_self {due : ScreenRule → Bool} {rules : List ScreenRule} {visible : List String}
    (h : ∀ r ∈ rules, due r = false) : applyDue due rules visible = (rules, visible) := by
  induction rules with
  | nil => rfl
  | cons r rest ih =>
    rw [List.forall_mem_cons] at h
    simp [applyDue, h.1, ih h.2]

/-- Each clock rule is applied at most once. -/
theorem dueByClock_applyDue (now : Span) (rules : List ScreenRule) (visible : List String) :
    ∀ r ∈ (applyDue (dueByClock now) rules visible).1, dueByClock now r = false := by
  induction rules generalizing visible with
  | nil => exact nofun
  | cons r rest ih =>
    rw [applyDue]
    split
    · rw [List.forall_mem_cons]
      exact ⟨by simp [dueByClock], ih _⟩
    · next h =>
      rw [List.forall_mem_cons]
      exact ⟨eq_false_of_ne_true h, ih _⟩

theorem settle_settled (s : Screen) : s.settle.Settled := dueByClock_applyDue s.now s.rules _

theorem Settled.settle_eq {s : Screen} (h : s.Settled) : s.settle = s := by
  rw [settle, fire, applyDue_eq_self h]

/-- Whether an element is found is whether the settled screen shows it. -/
theorem isSome_find (s : Screen) (name : String) :
    (s.find name).1.isSome = s.settle.isVisible name := by
  rw [find]
  cases s.settle.isVisible name <;> rfl

end BattlePilot.Screen
