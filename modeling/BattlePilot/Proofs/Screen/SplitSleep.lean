import BattlePilot.Proofs.Screen.Looking

/-! Sleeping in two parts. The clock and the rules that have been applied do not depend on how a
sleep is divided. What is visible may: the rules that fall due in one sleep are applied in the
order in which they are listed, not in the order of their times. -/

namespace BattlePilot

namespace Rule

theorem isSome_of_hasCome {r : Rule} {now : Span} (h : r.hasCome now = true) :
    r.afterSecs.isSome = true := by
  unfold hasCome at h
  cases hseconds : r.afterSecs with
  | none => simp [hseconds] at h
  | some seconds => rfl

/-- What a rule does with a name: whether it is shown; nothing if the rule does not mention it. -/
def says? (name : String) (r : Rule) : Option Bool :=
  if r.shows.contains name then some true
  else if r.hides.contains name then some false
  else none

/-- What the last one does of the rules that mention a name. -/
def lastSays? (name : String) : List Rule → Option Bool
  | [] => none
  | r :: rest => (lastSays? name rest).or (r.says? name)

theorem leaves_eq (name : String) (seen : Bool) (r : Rule) :
    r.leaves name seen = (r.says? name).getD seen := by
  unfold leaves says?
  cases r.shows.contains name <;> cases r.hides.contains name <;> cases seen <;> rfl

theorem foldl_leaves (name : String) (seen : Bool) (rules : List Rule) :
    rules.foldl (leaves name) seen = (lastSays? name rules).getD seen := by
  induction rules generalizing seen with
  | nil => rfl
  | cons r rest ih => rw [List.foldl_cons, ih, leaves_eq, lastSays?, Option.getD_or]

theorem lastSays?_append (name : String) (rules later : List Rule) :
    lastSays? name (rules ++ later) = (lastSays? name later).or (lastSays? name rules) := by
  induction rules with
  | nil => exact Option.or_none.symm
  | cons r rest ih => rw [List.cons_append, lastSays?, ih, lastSays?, Option.or_assoc]

theorem lastSays?_eq_none_iff {name : String} {rules : List Rule} :
    lastSays? name rules = none ↔ ∀ r ∈ rules, r.says? name = none := by
  induction rules with
  | nil => simp [lastSays?]
  | cons r rest ih => rw [lastSays?, Option.or_eq_none_iff, ih, List.forall_mem_cons, and_comm]

theorem lastSays?_filter_cons (name : String) (p : ScreenRule → Bool) (r : ScreenRule)
    (rest : List ScreenRule) :
    lastSays? name (((r :: rest).filter p).map (·.rule)) =
      (lastSays? name ((rest.filter p).map (·.rule))).or
        (if p r then r.rule.says? name else none) := by
  cases hp : p r with
  | true => rw [List.filter_cons_of_pos hp, List.map_cons, lastSays?, if_pos rfl]
  | false => simp [hp]

/-- It makes no difference to a name which rules are taken that do not mention it. -/
theorem lastSays?_filter {name : String} {rules : List ScreenRule} {p q : ScreenRule → Bool}
    (h : ∀ r ∈ rules, p r ≠ q r → r.rule.says? name = none) :
    lastSays? name ((rules.filter p).map (·.rule)) =
      lastSays? name ((rules.filter q).map (·.rule)) := by
  induction rules with
  | nil => rfl
  | cons r rest ih =>
    obtain ⟨hr, hrest⟩ := List.forall_mem_cons.1 h
    rw [lastSays?_filter_cons, lastSays?_filter_cons, ih hrest]
    by_cases hpq : p r = q r
    · rw [hpq]
    · rw [hr hpq, ite_self, ite_self]

end Rule

/-- What a list has of one kind, followed by what else it has of a wider kind, if it lists them in
that order. -/
theorem filter_eq_append {α : Type} {p q : α → Bool} {l : List α}
    (hsub : ∀ x ∈ l, p x = true → q x = true)
    (h : l.Pairwise fun x y => q x = true → p y = true → p x = true) :
    l.filter q = l.filter p ++ l.filter fun x => q x && !p x := by
  induction l with
  | nil => rfl
  | cons x rest ih =>
    obtain ⟨hx, hrest⟩ := List.pairwise_cons.1 h
    obtain ⟨hxsub, hrestsub⟩ := List.forall_mem_cons.1 hsub
    have ih := ih hrestsub hrest
    cases hp : p x with
    | true => simp [hp, hxsub hp, ih]
    | false =>
      cases hq : q x with
      | true =>
        -- nothing of the first kind follows
        have hnone : rest.filter p = [] :=
          List.filter_eq_nil_iff.2 fun y hy hpy => by simp [hx y hy hq hpy] at hp
        simp [hp, hq, ih, hnone]
      | false => simp [hp, hq, ih]

namespace Screen

variable {s first second joint : Screen} {a b d : Span}

/-- The rules that fall due until a time, in the order listed. -/
def dueUntil (s : Screen) (now : Span) : List Rule :=
  (s.rules.filter (dueByClock now)).map (·.rule)

theorem isVisible_sleep? (h : s.sleep? d = some first) (name : String) :
    first.isVisible name = (Rule.lastSays? name (s.dueUntil first.now)).getD (s.isVisible name) := by
  obtain ⟨now, -, rfl⟩ := Option.map_eq_some_iff.1 h
  rw [settle, isVisible_fire, Rule.foldl_leaves]
  rfl

/-- A rule that has fallen due in the first part of a sleep does not fall due again. -/
theorem dueByClock_passed (now later : Span) (r : ScreenRule) :
    dueByClock later (r.passed (dueByClock now)) = (dueByClock later r && !dueByClock now r) := by
  cases hdue : dueByClock now r with
  | true =>
    rw [ScreenRule.passed, if_pos hdue]
    simp [dueByClock]
  | false => rw [ScreenRule.passed_eq_self hdue, Bool.not_false, Bool.and_true]

theorem dueByClock_mono {now later : Span} (h : now.nanos ≤ later.nanos) {r : ScreenRule}
    (hdue : dueByClock now r = true) : dueByClock later r = true := by
  rw [dueByClock, Bool.and_eq_true] at *
  exact hdue.imp_right (Rule.hasCome_mono h)

theorem passed_passed {now later : Span} (h : now.nanos ≤ later.nanos) (r : ScreenRule) :
    (r.passed (dueByClock now)).passed (dueByClock later) = r.passed (dueByClock later) := by
  cases hdue : dueByClock now r with
  | true =>
    have hagain : dueByClock later (r.passed (dueByClock now)) = false := by
      rw [dueByClock_passed, hdue, Bool.not_true, Bool.and_false]
    rw [ScreenRule.passed_eq_self hagain, ScreenRule.passed, ScreenRule.passed, if_pos hdue,
      if_pos (dueByClock_mono h hdue)]
  | false => rw [ScreenRule.passed_eq_self hdue]

theorem dueUntil_sleep? (h : s.sleep? d = some first) (later : Span) :
    first.dueUntil later =
      (s.rules.filter fun r => dueByClock later r && !dueByClock first.now r).map (·.rule) := by
  obtain ⟨now, -, rfl⟩ := Option.map_eq_some_iff.1 h
  have hdue : s.rules.filter (dueByClock later ∘ (·.passed (dueByClock now))) =
      s.rules.filter fun r => dueByClock later r && !dueByClock now r :=
    List.filter_congr fun r _ => dueByClock_passed now later r
  rw [dueUntil, settle, fire_rules, List.filter_map, List.map_map, hdue]
  exact List.map_congr_left fun r _ => r.passed_rule _

/-- How a name fares if the rules of the whole sleep are applied at once, or in two parts. -/
theorem getD_eq_iff {seen : Bool} {early late all : Option Bool}
    (hsome : late ≠ none → all ≠ none) (hnone : late = none → all = early) :
    late.getD (early.getD seen) = all.getD seen ↔ ∀ shown, late = some shown → all = some shown := by
  cases late with
  | none => simp [hnone rfl]
  | some x =>
    cases all with
    | none => exact absurd rfl (hsome (Option.some_ne_none x))
    | some y => simp [eq_comm]

/-- The rules of a clock that has been stopped in between are those of one that has not. -/
theorem settle_rules_parts (s : Screen) {now later : Span} (h : now.nanos ≤ later.nanos) :
    (settle { settle { s with now } with now := later }).rules =
      (settle { s with now := later }).rules := by
  rw [settle, fire_rules, settle, fire_rules, settle, fire_rules, List.map_map]
  exact List.map_congr_left fun r _ => passed_passed h r

/-- Both parts of a sleep can be slept if the whole can, and they leave everything as the whole
does but for what is visible. -/
theorem sleep?_parts (hab : a.add? b = some d) (hjoint : s.sleep? d = some joint) :
    ∃ first second, s.sleep? a = some first ∧ first.sleep? b = some second ∧
      joint = { second with visible := joint.visible } := by
  obtain ⟨now, hnow, rfl⟩ := Option.map_eq_some_iff.1 hjoint
  have hnanos : now.nanos = s.now.nanos + a.nanos + b.nanos := by
    rw [Span.nanos_of_add? hnow, Span.nanos_of_add? hab, Nat.add_assoc]
  have hrange := now.inRange
  have hfirst : s.now.add? a = some ⟨s.now.nanos + a.nanos, by omega⟩ := dif_pos _
  have hsecond : Span.add? ⟨s.now.nanos + a.nanos, by omega⟩ b = some now := by
    rw [Span.add?, ← hnanos]
    exact Span.ofNanos?_nanos now
  refine ⟨_, _, congrArg (Option.map _) hfirst, congrArg (Option.map _) hsecond, ?_⟩
  refine Screen.mk.injEq .. ▸ ⟨rfl, rfl, rfl, ?_, rfl, rfl, rfl⟩
  exact (s.settle_rules_parts (Nat.le.intro hnanos.symm)).symm

/-- Clock rules that are listed in the order of their times are applied in the same order, however
a sleep is divided. -/
theorem dueUntil_parts {now later : Span} (h : now.nanos ≤ later.nanos)
    (hsorted : (s.rules.map (·.rule)).Pairwise fun r r' => ∀ now, r.afterSecs.isSome = true →
      r'.hasCome now = true → r.hasCome now = true) :
    s.dueUntil later = s.dueUntil now ++
      (s.rules.filter fun r => dueByClock later r && !dueByClock now r).map (·.rule) := by
  rw [dueUntil, dueUntil, ← List.map_append]
  refine congrArg _ (filter_eq_append (fun r _ => dueByClock_mono h) ((List.pairwise_map.1 hsorted).imp ?_))
  intro r r' hbefore hdue hdue'
  rw [dueByClock, Bool.and_eq_true] at *
  exact ⟨hdue.1, hbefore now (Rule.isSome_of_hasCome hdue.2) hdue'.2⟩

/-- However a sleep is divided, it leaves the same clock, the same rules applied and the same clicks
and inputs. It leaves a name as visible exactly if the last rule that mentions the name, of those
that fall due in the second part, does with it what the last one of all does that fall due; so
nothing depends on the division if the clock rules are listed in the order of their times. -/
theorem sleep_parts_visible (hab : a.add? b = some d) (hjoint : s.sleep? d = some joint) :
    ∃ first second, s.sleep? a = some first ∧ first.sleep? b = some second ∧
      joint = { second with visible := joint.visible } ∧
      (∀ name, second.isVisible name = joint.isVisible name ↔
        ∀ shown, Rule.lastSays? name (first.dueUntil joint.now) = some shown →
          Rule.lastSays? name (s.dueUntil joint.now) = some shown) ∧
      (((s.rules.map (·.rule)).Pairwise fun r r' => ∀ now, r.afterSecs.isSome = true →
          r'.hasCome now = true → r.hasCome now = true) →
        ∀ name, second.isVisible name = joint.isVisible name) := by
  obtain ⟨first, second, hfirst, hsecond, hsame⟩ := sleep?_parts hab hjoint
  have hnow : second.now = joint.now := (congrArg (·.now) hsame).symm
  have hle : first.now.nanos ≤ joint.now.nanos := by
    rw [← hnow, sleep?_now hsecond]
    exact Nat.le_add_right ..
  have hlate := dueUntil_sleep? hfirst joint.now
  refine ⟨first, second, hfirst, hsecond, hsame, fun name => ?_, fun hsorted name => ?_⟩
  · rw [isVisible_sleep? hsecond, isVisible_sleep? hfirst, isVisible_sleep? hjoint, hnow]
    refine getD_eq_iff (fun hsome hnone => hsome ?_) fun hnone => ?_
    · rw [dueUntil, Rule.lastSays?_eq_none_iff] at hnone
      rw [hlate, Rule.lastSays?_eq_none_iff]
      refine List.forall_mem_map.2 fun r hr => hnone _ (List.mem_map_of_mem ?_)
      obtain ⟨hr, hdue⟩ := List.mem_filter.1 hr
      exact List.mem_filter.2 ⟨hr, (Bool.and_eq_true_iff.1 hdue).1⟩
    · rw [hlate, Rule.lastSays?_eq_none_iff, List.forall_mem_map] at hnone
      refine Rule.lastSays?_filter fun r hr hdiffer => hnone r (List.mem_filter.2 ⟨hr, ?_⟩)
      cases hearly : dueByClock first.now r with
      | true =>
        rw [hearly] at hdiffer
        exact absurd (dueByClock_mono hle hearly) hdiffer
      | false =>
        rw [hearly] at hdiffer
        rw [eq_true_of_ne_false hdiffer, Bool.not_false, Bool.and_true]
  · rw [isVisible_sleep? hsecond, isVisible_sleep? hfirst, isVisible_sleep? hjoint, hnow, hlate,
      dueUntil_parts hle hsorted, Rule.lastSays?_append, Option.getD_or]

theorem sleep_parts_visible_sorted :
    let scenario : Scenario := {
      visible := ["attack"]
      rules := [{ afterSecs := some (.finite false Binary64.one), hides := ["attack"] },
        { afterSecs := some (.finite false (2 * Binary64.one)), shows := ["attack"] }] }
    let s := ofScenario scenario
    ∃ first second joint, s.sleep? (.ofSeconds 2) = some joint ∧
      s.sleep? (.ofSeconds 1) = some first ∧ first.sleep? (.ofSeconds 1) = some second ∧
      joint = { second with visible := joint.visible } ∧
      ∀ name, second.isVisible name = joint.isVisible name := by
  intro scenario s
  have hrange : (s.sleep? (.ofSeconds 2)).isSome = true := by decide +kernel
  obtain ⟨joint, hjoint⟩ := Option.isSome_iff_exists.1 hrange
  obtain ⟨first, second, hfirst, hsecond, hsame, -, hvisible⟩ :=
    sleep_parts_visible (a := .ofSeconds 1) (b := .ofSeconds 1) (by decide) hjoint
  refine ⟨first, second, joint, hjoint, hfirst, hsecond, hsame, hvisible ?_⟩
  rw [(Punctual.start scenario).listed]
  refine List.pairwise_pair.2 fun now _ h => ?_
  simp only [Rule.hasCome, Binary64.isReachedBy, Bool.false_or, decide_eq_true_eq] at h ⊢
  omega

/-- A rule of the second second that is listed before one of the first second is applied after it
by two sleeps, and before it by one. -/
theorem sleep_parts_differ :
    let scenario : Scenario := {
      rules := [{ afterSecs := some (.finite false (2 * Binary64.one)), shows := ["attack"] },
        { afterSecs := some (.finite false Binary64.one), hides := ["attack"] }] }
    let s := ofScenario scenario
    scenario.fault? = none ∧ Span.add? (.ofSeconds 1) (.ofSeconds 1) = some (.ofSeconds 2) ∧
      ((s.sleep? (.ofSeconds 1)).bind (·.sleep? (.ofSeconds 1))).map (·.isVisible "attack") =
        some true ∧
      (s.sleep? (.ofSeconds 2)).map (·.isVisible "attack") = some false := by
  decide +kernel

end Screen
end BattlePilot
