import BattlePilot.Proofs.Screen.Firing
import BattlePilot.Proofs.Screen.Received

/-! How often click rules are applied. That is a matter of the clicks on their label alone: each
click applies a rule once more or not at all, and clicks are the only operations that do. -/

namespace BattlePilot

/-- How often a rule is applied in so many clicks on its label. -/
def Rule.applications (r : Rule) (clicks : Nat) : Nat :=
  match r.nth, r.repeats with
  | none, false => min clicks 1
  | none, true => clicks
  | some n, false => if n.toNat ≤ clicks then 1 else 0
  | some n, true => clicks + 1 - n.toNat

/-- Whether click number `count` on a label applies the rule. -/
def Rule.isAppliedBy (label : String) (count : Nat) (r : Rule) : Bool :=
  r.onClick == some label && decide (r.applications (count - 1) < r.applications count)

/-- Whether a click may apply a rule that has been applied before. No click has number zero. -/
def Rule.appliesAnew (r : Rule) : Bool :=
  r.onClick.isSome && (r.repeats || r.nth.any (0 < ·))

/-- How often a label is clicked. -/
def ScreenOp.clicksOn (label : String) (ops : List ScreenOp) : Nat :=
  (ops.filterMap clicked?).count label

theorem ScreenOp.clicksOn_concat (label : String) (ops : List ScreenOp) (op : ScreenOp) :
    clicksOn label (ops ++ [op]) =
      clicksOn label ops + if op.clicked? = some label then 1 else 0 := by
  rw [clicksOn, List.filterMap_append, List.count_append, clicksOn]
  cases h : op.clicked? with
  | none => simp [h]
  | some clicked => simp [h, List.count_singleton]

namespace Rule

theorem nth_pos {r : Rule} {n : UInt32} (h : r.nth ≠ some 0) (hn : r.nth = some n) :
    0 < n.toNat := by
  refine Nat.pos_of_ne_zero fun hzero => h ?_
  rw [hn, UInt32.toNat_inj.1 (hzero.trans UInt32.toNat_zero.symm)]

/-- Before the first click, a rule has not been applied. -/
theorem applications_zero {r : Rule} (h : r.nth ≠ some 0) : r.applications 0 = 0 := by
  unfold applications
  split
  · rfl
  · rfl
  · next n hn _ => exact if_neg (Nat.not_le_of_lt (nth_pos h hn))
  · next n hn _ => exact Nat.sub_eq_zero_of_le (nth_pos h hn)

/-- A click applies a rule once at most. -/
theorem applications_succ (r : Rule) (clicks : Nat) :
    r.applications (clicks + 1) =
      r.applications clicks + if r.applications clicks < r.applications (clicks + 1) then 1 else 0 := by
  unfold applications
  split <;> grind

theorem applications_le_succ (r : Rule) (clicks : Nat) :
    r.applications clicks ≤ r.applications (clicks + 1) := by
  rw [r.applications_succ]
  exact Nat.le_add_right ..

end Rule

namespace Screen

variable {s s' : Screen} {scenario : Scenario} {ops : List ScreenOp}

/-! ### Counting -/

theorem lookup_cons_ite (label other : String) (count : Nat) (rest : List (String × Nat)) :
    ((label, count) :: rest).lookup other =
      if other = label then some count else rest.lookup other := by
  rw [List.lookup_cons]
  by_cases h : other = label
  · rw [if_pos h, beq_iff_eq.2 h]
  · rw [if_neg h, beq_eq_false_iff_ne.2 h]

theorem lookup_setCount (label other : String) (count : Nat) (clicks : List (String × Nat)) :
    (setCount label count clicks).lookup other =
      if other = label then some count else clicks.lookup other := by
  induction clicks with
  | nil => exact lookup_cons_ite ..
  | cons entry rest ih =>
    obtain ⟨l, n⟩ := entry
    rw [setCount]
    split
    · next h =>
      rw [lookup_cons_ite, lookup_cons_ite, h]
      split <;> rfl
    · next h =>
      rw [lookup_cons_ite, lookup_cons_ite, ih]
      by_cases hl : other = l
      · rw [if_pos hl, if_pos hl, if_neg (hl ▸ h)]
      · rw [if_neg hl, if_neg hl]

/-- The click that is counted next applies the rules that it is expected to. -/
theorem dueByClick_eq {r : ScreenRule} {label : String} {clicks : Nat}
    (h : r.rule.onClick = some label → r.applied = r.rule.applications clicks)
    (hnth : r.rule.nth ≠ some 0) :
    dueByClick label (clicks + 1) r = r.rule.isAppliedBy label (clicks + 1) := by
  unfold dueByClick Rule.isAppliedBy
  cases hclick : r.rule.onClick == some label with
  | false => rfl
  | true =>
    rw [Bool.true_and, Bool.true_and, h (beq_iff_eq.1 hclick), Nat.add_sub_cancel]
    unfold Rule.applications
    cases hn : r.rule.nth with
    | none => cases r.rule.repeats <;> grind
    | some n =>
      have hpos := Rule.nth_pos hnth hn
      cases r.rule.repeats <;> grind

/-- A click applies a rule for the first time, or it applies a rule anew that the number of the
click demands once more. -/
theorem applications_of_dueByClick {r : ScreenRule} {label : String} {clicks : Nat}
    (h : dueByClick label (clicks + 1) r = true) :
    r.applied = 0 ∨ r.rule.appliesAnew = true ∧
      r.rule.applications (clicks + 1) = r.rule.applications clicks + 1 := by
  obtain ⟨hclick, hdue⟩ := Bool.and_eq_true_iff.1 h
  unfold Rule.appliesAnew Rule.applications
  rw [beq_iff_eq.1 hclick]
  cases hn : r.rule.nth with
  | none =>
    cases hrepeats : r.rule.repeats with
    | false =>
      simp only [hn, hrepeats, beq_iff_eq] at hdue
      exact .inl hdue
    | true => exact .inr ⟨rfl, rfl⟩
  | some n =>
    right
    cases hrepeats : r.rule.repeats with
    | false =>
      simp only [hn, hrepeats, beq_iff_eq] at hdue
      have hpos : 0 < n := UInt32.lt_iff_toNat_lt.2 (hdue ▸ Nat.succ_pos clicks)
      simp [← hdue, hpos]
    | true =>
      simp only [hn, hrepeats, decide_eq_true_eq] at hdue
      exact ⟨rfl, Nat.succ_sub hdue⟩

theorem clickCount_setCount (s : Screen) (label other : String) (count : Nat) :
    { s with clicks := setCount label count s.clicks }.clickCount other =
      if other = label then count else s.clickCount other := by
  rw [clickCount, lookup_setCount, clickCount]
  split <;> rfl

theorem receive?_of_label {input : Input} (h : input.label? = some label) :
    s.receive? input = { s with inputs := input :: s.inputs }.countClick? label := by
  cases input with
  | click | doubleClick =>
    cases h
    rfl
  | scroll | home => cases h

/-- The rules are those of the scenario, the clicks are counted, and each click rule has been
applied as often as its clicks demand. -/
structure Tallied (scenario : Scenario) (ops : List ScreenOp) (s : Screen) : Prop where
  listed : s.rules.map (·.rule) = scenario.rules
  clicks : ∀ label, s.clickCount label = ScreenOp.clicksOn label ops
  inRange : ∀ label, s.clickCount label < clickLimit
  applied : ∀ r ∈ s.rules, ∀ label, r.rule.onClick = some label →
    r.applied = r.rule.applications (s.clickCount label)

namespace Tallied

theorem trigger (h : Tallied scenario ops s) (hvalid : scenario.fault? = none) {r : ScreenRule}
    (hr : r ∈ s.rules) :
    ((∃ label, r.rule.onClick = some label) ∧ r.rule.afterSecs = none ∨
      r.rule.onClick = none ∧ r.rule.afterSecs.isSome = true) ∧ r.rule.nth ≠ some 0 :=
  Scenario.trigger_of_mem hvalid (h.listed ▸ List.mem_map_of_mem hr)

/-- The clock applies no click rule. -/
theorem settle (h : Tallied scenario ops s) (hvalid : scenario.fault? = none) :
    Tallied scenario ops s.settle where
  listed := (s.fire_listed _).trans h.listed
  clicks := h.clicks
  inRange := h.inRange
  applied := by
    refine (s.forall_mem_fire _).2 fun r hr label hclick => ?_
    rw [ScreenRule.passed_rule] at hclick ⊢
    have hclock : r.rule.afterSecs = none := by
      rcases (h.trigger hvalid hr).1 with ⟨-, hclock⟩ | ⟨hnone, -⟩
      · exact hclock
      · rw [hnone] at hclick
        cases hclick
    have hdue : dueByClock s.now r = false := by simp [dueByClock, Rule.hasCome, hclock]
    rw [ScreenRule.passed_eq_self hdue]
    exact h.applied r hr label hclick

theorem lasting (hvalid : scenario.fault? = none) (ops : List ScreenOp) :
    Lasting (Tallied scenario ops) where
  settle h := h.settle hvalid
  sleep hslept h := by
    obtain ⟨now, -, rfl⟩ := Option.map_eq_some_iff.1 hslept
    exact settle ⟨h.listed, h.clicks, h.inRange, h.applied⟩ hvalid
  hide h := ⟨h.listed, h.clicks, h.inRange, h.applied⟩

theorem start (hvalid : scenario.fault? = none) : Tallied scenario [] (ofScenario scenario) := by
  refine settle ⟨List.map_map.trans (List.map_id _), fun _ => rfl, fun _ => ?_, ?_⟩ hvalid
  · exact Nat.pos_of_ne_zero (by decide)
  · intro r hr label _
    obtain ⟨rule, hrule, rfl⟩ := List.mem_map.1 hr
    exact (Rule.applications_zero (Scenario.trigger_of_mem hvalid hrule).2).symm

theorem noted (h : Tallied scenario ops s) (input : Input) :
    Tallied scenario ops { s with inputs := input :: s.inputs } :=
  ⟨h.listed, h.clicks, h.inRange, h.applied⟩

/-- The rules that a click makes due are those that the number of the click applies. -/
theorem dueByClick (h : Tallied scenario ops s) (hvalid : scenario.fault? = none) {r : ScreenRule}
    (hr : r ∈ s.rules) (label : String) :
    Screen.dueByClick label (s.clickCount label + 1) r =
      r.rule.isAppliedBy label (s.clickCount label + 1) :=
  dueByClick_eq (h.applied r hr label) (h.trigger hvalid hr).2

theorem clicked (h : Tallied scenario ops s) (hvalid : scenario.fault? = none)
    (hop : op.clicked? = some label) (hclicked : s.countClick? label = some s') :
    Tallied scenario (ops ++ [op]) s' := by
  have hrange : s.clickCount label + 1 < clickLimit := (Option.ite_none_right_eq_some.1 hclicked).1
  rw [countClick?_eq_some hclicked]
  have hcount (other : String) :
      clickCount { s with clicks := setCount label (s.clickCount label + 1) s.clicks } other =
        if other = label then s.clickCount label + 1 else s.clickCount other :=
    s.clickCount_setCount ..
  refine ⟨(fire_listed ..).trans h.listed, fun other => (hcount other).trans ?_, fun other => ?_, ?_⟩
  · rw [ScreenOp.clicksOn_concat, hop, h.clicks, h.clicks]
    by_cases hother : other = label
    · rw [if_pos hother, if_pos (congrArg some hother.symm), hother]
    · rw [if_neg hother, if_neg fun heq => hother (Option.some.inj heq).symm, Nat.add_zero]
  · refine Nat.lt_of_le_of_lt (Nat.le_of_eq (hcount other)) ?_
    split
    · exact hrange
    · exact h.inRange other
  · refine (forall_mem_fire ..).2 fun r hr other hclick => ?_
    rw [ScreenRule.passed_rule] at hclick
    refine Eq.trans ?_ (congrArg (Rule.applications _) (hcount other)).symm
    rw [ScreenRule.passed_rule, ScreenRule.passed_applied, h.dueByClick hvalid hr label,
      h.applied r hr other hclick]
    by_cases hother : other = label
    · subst hother
      rw [if_pos rfl, r.rule.applications_succ]
      simp [Rule.isAppliedBy, hclick]
    · simp [Rule.isAppliedBy, hclick, hother]

/-- No operation but a click counts. -/
theorem unclicked (h : Tallied scenario ops s) (hop : op.clicked? = none) :
    Tallied scenario (ops ++ [op]) s where
  listed := h.listed
  clicks label := by
    rw [h.clicks, ScreenOp.clicksOn_concat, hop]
    rfl
  inRange := h.inRange
  applied := h.applied

theorem performed (h : Tallied scenario ops s) (hvalid : scenario.fault? = none)
    (hperformed : s.perform? op = some (answer, s')) : Tallied scenario (ops ++ [op]) s' := by
  cases op with
  | input i =>
    obtain ⟨s₁, hreceived, heq⟩ := Option.map_eq_some_iff.1 hperformed
    cases heq
    cases i with
    | click | doubleClick => exact (h.noted _).clicked hvalid rfl hreceived
    | scroll | home =>
      cases hreceived
      exact unclicked ⟨h.listed, h.clicks, h.inRange, h.applied⟩ rfl
  | _ =>
    exact (lasting hvalid _).performed (h.unclicked rfl) (fun _ hop => by cases hop) hperformed

theorem performedAll (hvalid : scenario.fault? = none)
    (h : (ofScenario scenario).performAll? ops = some s) : Tallied scenario ops s :=
  performAll?_induct (start hvalid)
    (fun _ _ _ _ _ htallied hperformed => htallied.performed hvalid hperformed) h

end Tallied

/-- In a scenario without fault, a click rule has been applied as often as the number of clicks on
its label demands, whatever else has been done. The click that makes it due applies it, after the
rules listed before it; each rule hides before it shows. -/
theorem click_rules_applied (hvalid : scenario.fault? = none)
    (h : (ofScenario scenario).performAll? ops = some s) :
    s.rules.map (·.rule) = scenario.rules ∧
      (∀ label, ScreenOp.clicksOn label ops < clickLimit ∧
        ∀ r ∈ s.rules, r.rule.onClick = some label →
          r.applied = r.rule.applications (ScreenOp.clicksOn label ops)) ∧
      ∀ input label, input.label? = some label →
        ((s.receive? input).isSome = true ↔ ScreenOp.clicksOn label ops + 1 < clickLimit) ∧
        ∀ s', s.receive? input = some s' → ∀ name, s'.isVisible name =
          (scenario.rules.filter (·.isAppliedBy label (ScreenOp.clicksOn label ops + 1))).foldl
            (Rule.leaves name) (s.isVisible name) := by
  have htallied := Tallied.performedAll hvalid h
  refine ⟨htallied.listed, fun label => ?_, fun input label hlabel => ?_⟩
  · rw [← htallied.clicks]
    exact ⟨htallied.inRange label, fun r hr hclick => htallied.applied r hr label hclick⟩
  · rw [receive?_of_label hlabel, ← htallied.clicks]
    refine ⟨Option.isSome_ite, fun s' hclicked name => ?_⟩
    have hdue : s.rules.filter (dueByClick label (s.clickCount label + 1)) =
        s.rules.filter ((·.isAppliedBy label (s.clickCount label + 1)) ∘ (·.rule)) :=
      List.filter_congr fun r hr => htallied.dueByClick hvalid hr label
    rw [countClick?_eq_some hclicked, isVisible_fire, ← htallied.listed, List.filter_map, ← hdue]
    rfl

/-- Two rules on one label: the second click applies both, and what the first one hides the second
one shows. -/
theorem click_rules_applied_twice :
    let scenario : Scenario := {
      visible := ["attack"]
      rules := [{ onClick := some "attack", nth := some 2, hides := ["attack"] },
        { onClick := some "attack", repeats := true, hides := ["next"], shows := ["attack"] }] }
    let click : Input := .click "attack" ⟨640, 480⟩
    ∃ s s', scenario.fault? = none ∧
      (ofScenario scenario).performAll? [.input click, .find "attack"] = some s ∧
      s.receive? click = some s' ∧ s'.isVisible "attack" = true := by
  intro scenario click
  have hvalid : scenario.fault? = none := by decide +kernel
  have hrun : ((ofScenario scenario).performAll? [.input click, .find "attack"]).isSome = true := by
    decide +kernel
  obtain ⟨s, h⟩ := Option.isSome_iff_exists.1 hrun
  obtain ⟨-, -, hclick⟩ := click_rules_applied hvalid h
  obtain ⟨hreceived, hseen⟩ := hclick click "attack" rfl
  obtain ⟨s', hs'⟩ := Option.isSome_iff_exists.1 (hreceived.2 (by decide +kernel))
  refine ⟨s, s', hvalid, h, hs', (hseen s' hs' "attack").trans ?_⟩
  cases s.isVisible "attack" <;> decide +kernel

end Screen
end BattlePilot
