import BattlePilot.Proofs.Number.Order
import BattlePilot.Proofs.Screen.ClickRules
import BattlePilot.Proofs.Screen.Clock

/-! Looking does not touch the screen. Whatever is done to a screen, its clock rules have been
applied as soon as their time came, so that there is nothing left to do when somebody looks. The
clock applies a rule only if nothing has applied it before; clicks may apply it again. -/

namespace BattlePilot

theorem Binary64.isReachedBy_mono {number : Binary64} {m n : Nat} (h : m ≤ n)
    (hreached : number.isReachedBy m = true) : number.isReachedBy n = true := by
  cases number with
  | finite negative units =>
    simp only [isReachedBy, Bool.or_eq_true, decide_eq_true_eq] at hreached ⊢
    exact hreached.imp_right fun hle => Nat.le_trans hle h
  | infinite => exact hreached
  | nan => cases hreached

/-- A time that has come has come for good. -/
theorem Rule.hasCome_mono {r : Rule} {now later : Span} (h : now.nanos ≤ later.nanos)
    (hcome : r.hasCome now = true) : r.hasCome later = true := by
  unfold hasCome at *
  cases hseconds : r.afterSecs with
  | none => simp [hseconds] at hcome
  | some seconds =>
    rw [hseconds] at hcome
    exact Binary64.isReachedBy_mono (Span.magnitude_mono h) hcome

namespace Screen

variable {s s' : Screen} {rules : List Rule}

/-- Applying more rules leaves no clock rule behind. -/
theorem Settled.fire (h : s.Settled) (due : ScreenRule → Bool) : (s.fire due).Settled := by
  refine (s.forall_mem_fire due).2 fun r hr => ?_
  cases hdue : due r with
  | true => simp [ScreenRule.passed, hdue, dueByClock]
  | false =>
    rw [ScreenRule.passed_eq_self hdue]
    exact h r hr

/-- The rules are those listed. The clock rules among them are applied if their time has come, and
those that no click can apply are applied once then, and never before. -/
structure Punctual (rules : List Rule) (s : Screen) : Prop where
  listed : s.rules.map (·.rule) = rules
  settled : s.Settled
  once : ∀ r ∈ s.rules, r.rule.onClick = none → r.applied = if r.rule.hasCome s.now then 1 else 0

namespace Punctual

/-- A screen that settles becomes punctual if its rules have not been applied too early. -/
theorem of_settle (hlisted : s.rules.map (·.rule) = rules)
    (h : ∀ r ∈ s.rules, r.rule.onClick = none → ∃ before : Bool,
      r.applied = (if before then 1 else 0) ∧ (before = true → r.rule.hasCome s.now = true)) :
    Punctual rules s.settle where
  listed := (s.fire_listed _).trans hlisted
  settled := s.settle_settled
  once := by
    refine (s.forall_mem_fire _).2 fun r hr hclick => ?_
    rw [ScreenRule.passed_rule] at hclick ⊢
    obtain ⟨before, happlied, hbefore⟩ := h r hr hclick
    rw [ScreenRule.passed_applied, dueByClock, happlied, settle_now]
    cases before with
    | true => simp [hbefore rfl]
    | false => simp

theorem start (scenario : Scenario) : Punctual scenario.rules (ofScenario scenario) := by
  refine of_settle (List.map_map.trans (List.map_id _)) fun r hr _ => ⟨false, ?_, nofun⟩
  obtain ⟨rule, -, rfl⟩ := List.mem_map.1 hr
  rfl

theorem lasting (rules : List Rule) : Lasting (Punctual rules) where
  settle h := h.settled.settle_eq.symm ▸ h
  sleep hslept h := by
    have hle := sleep?_now hslept
    obtain ⟨now, hnow, rfl⟩ := Option.map_eq_some_iff.1 hslept
    refine of_settle h.listed fun r hr hclick => ⟨_, h.once r hr hclick, ?_⟩
    exact Rule.hasCome_mono (Nat.le.intro hle.symm)
  hide h := ⟨h.listed, h.settled, h.once⟩

/-- Clicks apply no rule that only the clock applies. -/
theorem fire_dueByClick (h : Punctual rules s) (label : String) (count : Nat) :
    Punctual rules (s.fire (dueByClick label count)) where
  listed := (s.fire_listed _).trans h.listed
  settled := h.settled.fire _
  once := by
    refine (s.forall_mem_fire _).2 fun r hr hclick => ?_
    rw [ScreenRule.passed_rule] at hclick
    have hdue : dueByClick label count r = false := by simp [dueByClick, hclick]
    rw [ScreenRule.passed_eq_self hdue]
    exact h.once r hr hclick

theorem received (h : Punctual rules s) (hreceived : s.receive? input = some s') :
    Punctual rules s' := by
  cases input with
  | click label | doubleClick label =>
    rw [countClick?_eq_some hreceived]
    apply fire_dueByClick
    exact ⟨h.listed, h.settled, h.once⟩
  | scroll | home =>
    cases hreceived
    exact ⟨h.listed, h.settled, h.once⟩

theorem performedAll {scenario : Scenario} {ops : List ScreenOp}
    (h : (ofScenario scenario).performAll? ops = some s) : Punctual scenario.rules s :=
  performAll?_induct (P := fun _ => Punctual scenario.rules) (start scenario)
    (fun _ _ _ _ _ h => (lasting scenario.rules).performed h fun _ _ => h.received) h

end Punctual

/-! ### No rule is applied too often -/

/-- A rule that no click applies anew has been applied once at most. A rule that clicks apply has
been applied at most once more than they demand. -/
structure Spared (count : String → Nat) (r : ScreenRule) : Prop where
  once : r.rule.appliesAnew = false → r.applied ≤ 1
  demanded : ∀ label, r.rule.onClick = some label →
    r.applied ≤ r.rule.applications (count label) + 1

namespace Spared

variable {count count' : String → Nat} {r : ScreenRule}

theorem of_applied_le (h : r.applied ≤ 1) : Spared count r where
  once _ := h
  demanded _ _ := Nat.le_add_left_of_le h

/-- What is applied for the first time is spared. -/
theorem of_passed {due : ScreenRule → Bool} (hdue : due r = true) (happlied : r.applied = 0) :
    Spared count (r.passed due) := by
  refine of_applied_le ?_
  rw [ScreenRule.passed_applied, if_pos hdue, happlied]

theorem settled (h : Spared count r) (now : Span) : Spared count (r.passed (dueByClock now)) := by
  cases hdue : dueByClock now r with
  | true => exact of_passed hdue (beq_iff_eq.1 (Bool.and_eq_true_iff.1 hdue).1)
  | false =>
    rw [ScreenRule.passed_eq_self hdue]
    exact h

/-- A click that applies a rule again demands it once more. -/
theorem clicked (h : Spared count r)
    (hcount : ∀ other, count' other = if other = label then count label + 1 else count other) :
    Spared count' (r.passed (dueByClick label (count label + 1))) := by
  cases hdue : dueByClick label (count label + 1) r with
  | true =>
    rcases applications_of_dueByClick hdue with happlied | ⟨hanew, hdemanded⟩
    · exact of_passed hdue happlied
    · refine ⟨fun honce => ?_, fun other hclick => ?_⟩
      · rw [ScreenRule.passed_rule, hanew] at honce
        cases honce
      · rw [ScreenRule.passed_rule] at hclick
        have hlabel : r.rule.onClick = some label := beq_iff_eq.1 (Bool.and_eq_true_iff.1 hdue).1
        obtain rfl : other = label := Option.some.inj (hclick.symm.trans hlabel)
        rw [ScreenRule.passed_rule, ScreenRule.passed_applied, if_pos hdue, hcount, if_pos rfl,
          hdemanded]
        exact Nat.succ_le_succ (h.demanded other hclick)
  | false =>
    rw [ScreenRule.passed_eq_self hdue]
    refine ⟨h.once, fun other hclick => (h.demanded other hclick).trans ?_⟩
    rw [hcount]
    split
    · next hother =>
      rw [hother]
      exact Nat.succ_le_succ (r.rule.applications_le_succ _)
    · exact Nat.le_refl _

end Spared

/-- No rule has been applied too often. -/
def Sparing (s : Screen) : Prop := ∀ r ∈ s.rules, Spared s.clickCount r

namespace Sparing

theorem settle (h : s.Sparing) : s.settle.Sparing :=
  (s.forall_mem_fire _).2 fun r hr => (h r hr).settled s.now

theorem start (scenario : Scenario) : (ofScenario scenario).Sparing := by
  refine settle fun r hr => .of_applied_le ?_
  obtain ⟨rule, -, rfl⟩ := List.mem_map.1 hr
  exact Nat.zero_le 1

theorem lasting : Lasting Sparing where
  settle := settle
  sleep hslept h := by
    obtain ⟨now, -, rfl⟩ := Option.map_eq_some_iff.1 hslept
    exact settle h
  hide h := h

theorem received (h : s.Sparing) (hreceived : s.receive? input = some s') : s'.Sparing := by
  cases input with
  | click label | doubleClick label =>
    rw [countClick?_eq_some hreceived]
    exact (forall_mem_fire ..).2 fun r hr => (h r hr).clicked fun other =>
      s.clickCount_setCount label other _
  | scroll | home =>
    cases hreceived
    exact h

theorem performedAll {scenario : Scenario} {ops : List ScreenOp}
    (h : (ofScenario scenario).performAll? ops = some s) : s.Sparing :=
  performAll?_induct (P := fun _ => Sparing) (start scenario)
    (fun _ _ _ _ _ h => lasting.performed h fun _ _ => h.received) h

end Sparing

/-! ### What looking leaves -/

end Screen
end BattlePilot
