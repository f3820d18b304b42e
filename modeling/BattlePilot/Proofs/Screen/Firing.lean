import BattlePilot.Proofs.Screen.Settle

/-! What applying rules does to a screen. The rules that are due are applied once more, in the
order in which they are listed, and nothing is left of the order in which names are kept: a name is
visible afterwards if the last rule says so that shows or hides it. -/

namespace BattlePilot

/-- Whether a name is visible after a rule, if it was `seen` before. What a rule both hides and
shows is shown. -/
def Rule.leaves (name : String) (seen : Bool) (r : Rule) : Bool :=
  r.shows.contains name || (seen && !r.hides.contains name)

/-- The rule, applied once more. -/
def ScreenRule.again (r : ScreenRule) : ScreenRule := { r with applied := r.applied + 1 }

@[simp] theorem ScreenRule.again_rule (r : ScreenRule) : r.again.rule = r.rule := rfl

@[simp] theorem ScreenRule.again_applied (r : ScreenRule) : r.again.applied = r.applied + 1 := rfl

/-- The rule after the rules that are `due` have been applied. -/
def ScreenRule.passed (due : ScreenRule → Bool) (r : ScreenRule) : ScreenRule :=
  if due r then r.again else r

@[simp] theorem ScreenRule.passed_rule (due : ScreenRule → Bool) (r : ScreenRule) :
    (r.passed due).rule = r.rule := by
  unfold passed
  split <;> rfl

theorem ScreenRule.passed_applied (due : ScreenRule → Bool) (r : ScreenRule) :
    (r.passed due).applied = r.applied + if due r then 1 else 0 := by
  unfold passed
  split <;> rfl

theorem ScreenRule.passed_eq_self {due : ScreenRule → Bool} {r : ScreenRule} (h : due r = false) :
    r.passed due = r := if_neg (ne_true_of_eq_false h)

/-! ### Triggers -/

/-- A rule without fault has one trigger, and counts clicks from one. -/
theorem Rule.trigger_of_fault? {r : Rule} (h : r.fault? index = none) :
    ((∃ label, r.onClick = some label) ∧ r.afterSecs = none ∨
      r.onClick = none ∧ r.afterSecs.isSome = true) ∧ r.nth ≠ some 0 := by
  unfold fault? at h
  split at h
  · next hclick hclock =>
    exact ⟨.inl ⟨⟨_, hclick⟩, hclock⟩, fun hzero => by simp [fault?.nthFault, hzero] at h⟩
  · next hclick hclock =>
    split at h
    · exact ⟨.inr ⟨hclick, hclock ▸ rfl⟩, fun hzero => by simp [fault?.nthFault, hzero] at h⟩
    · cases h
  · cases h

theorem Scenario.fault?_of_mem {rules : List Rule} (h : faultFrom? index rules = none) :
    ∀ r ∈ rules, ∃ i, r.fault? i = none := by
  induction rules generalizing index with
  | nil => exact List.forall_mem_nil _
  | cons r rest ih =>
    obtain ⟨hr, hrest⟩ := Option.or_eq_none_iff.1 h
    exact List.forall_mem_cons.2 ⟨⟨index, hr⟩, ih hrest⟩

theorem Scenario.trigger_of_mem {scenario : Scenario} (h : scenario.fault? = none) {r : Rule}
    (hr : r ∈ scenario.rules) :
    ((∃ label, r.onClick = some label) ∧ r.afterSecs = none ∨
      r.onClick = none ∧ r.afterSecs.isSome = true) ∧ r.nth ≠ some 0 := by
  obtain ⟨i, hi⟩ := fault?_of_mem h r hr
  exact Rule.trigger_of_fault? hi

namespace Screen

/-! ### One rule -/

theorem contains_hideName (visible : List String) (hidden name : String) :
    (hideName visible hidden).contains name = (visible.contains name && name != hidden) := by
  rw [hideName, Bool.eq_iff_iff]
  simp

theorem contains_showName (visible : List String) (shown name : String) :
    (showName visible shown).contains name = (visible.contains name || name == shown) := by
  unfold showName
  split
  · next h =>
    cases hname : name == shown with
    | true => rw [beq_iff_eq.1 hname, h, Bool.true_or]
    | false => rw [Bool.or_false]
  · rw [List.contains_cons, Bool.or_comm]

theorem contains_foldl_hideName (names visible : List String) (name : String) :
    (names.foldl hideName visible).contains name =
      (visible.contains name && !names.contains name) := by
  induction names generalizing visible with
  | nil => simp
  | cons hidden names ih =>
    rw [List.foldl_cons, ih, contains_hideName, List.contains_cons, Bool.not_or, Bool.and_assoc]
    rfl

theorem contains_foldl_showName (names visible : List String) (name : String) :
    (names.foldl showName visible).contains name =
      (visible.contains name || names.contains name) := by
  induction names generalizing visible with
  | nil => simp
  | cons shown names ih =>
    rw [List.foldl_cons, ih, contains_showName, List.contains_cons, Bool.or_assoc]

theorem contains_applyRule (visible : List String) (r : Rule) (name : String) :
    (applyRule visible r).contains name = r.leaves name (visible.contains name) := by
  rw [applyRule, contains_foldl_showName, contains_foldl_hideName, Rule.leaves, Bool.or_comm]

/-! ### All rules that are due -/

theorem applyDue_rules (due : ScreenRule → Bool) (rules : List ScreenRule)
    (visible : List String) :
    (applyDue due rules visible).1 = rules.map (·.passed due) := by
  induction rules generalizing visible with
  | nil => rfl
  | cons r rest ih =>
    rw [applyDue, List.map_cons, ScreenRule.passed]
    split <;> exact congrArg (_ :: ·) (ih _)

theorem contains_applyDue (due : ScreenRule → Bool) (rules : List ScreenRule)
    (visible : List String) (name : String) :
    (applyDue due rules visible).2.contains name =
      ((rules.filter due).map (·.rule)).foldl (Rule.leaves name) (visible.contains name) := by
  induction rules generalizing visible with
  | nil => rfl
  | cons r rest ih =>
    rw [applyDue]
    split
    · next h => rw [List.filter_cons_of_pos h, List.map_cons, List.foldl_cons, ih, contains_applyRule]
    · next h => rw [List.filter_cons_of_neg h, ih]

theorem countClick?_eq_some {s s' : Screen} (h : s.countClick? label = some s') :
    s' = { s with clicks := setCount label (s.clickCount label + 1) s.clicks }.fire
      (dueByClick label (s.clickCount label + 1)) := by
  obtain ⟨-, h⟩ := Option.ite_none_right_eq_some.1 h
  exact (Option.some.inj h).symm

variable (s : Screen) (due : ScreenRule → Bool)

theorem fire_rules : (s.fire due).rules = s.rules.map (·.passed due) :=
  applyDue_rules due s.rules s.visible

theorem isVisible_fire (name : String) :
    (s.fire due).isVisible name =
      ((s.rules.filter due).map (·.rule)).foldl (Rule.leaves name) (s.isVisible name) :=
  contains_applyDue due s.rules s.visible name

/-- Applying rules changes none of them. -/
theorem fire_listed : (s.fire due).rules.map (·.rule) = s.rules.map (·.rule) := by
  rw [fire_rules, List.map_map]
  exact List.map_congr_left fun r _ => r.passed_rule due

theorem forall_mem_fire {P : ScreenRule → Prop} :
    (∀ r ∈ (s.fire due).rules, P r) ↔ ∀ r ∈ s.rules, P (r.passed due) := by
  rw [fire_rules, List.forall_mem_map]

end Screen
end BattlePilot
