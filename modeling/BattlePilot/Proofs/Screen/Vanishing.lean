import BattlePilot.Proofs.Screen.Windows

/-! Waiting for an element to vanish is exact. The samples of a wait are one second apart, except
for the last one, which is taken at the deadline; the wait ends at the first sample that does not
show the element, or else at the deadline. -/

namespace BattlePilot.Screen

variable {s s' : Screen} {name : String} {timeout deadline : Span}

/-! ### Samples of a wait -/

/-- The clock of a sample: so many seconds after the start, but not after the deadline. -/
theorem towards?_now {k : Nat} (hd : s.now.nanos ≤ deadline.nanos)
    (h : s.towards? deadline k = some s') :
    s'.now.nanos = min (s.now.nanos + k * Span.nanosPerSecond) deadline.nanos := by
  induction k generalizing s' with
  | zero =>
    cases h
    rw [settle_now, Nat.zero_mul, Nat.add_zero, Nat.min_eq_left hd]
  | succ k ih =>
    obtain ⟨before, hbefore, hslept⟩ := Option.bind_eq_some_iff.1 h
    have hnow := sleep?_now hslept
    have hsub : (deadline.sub before.now).nanos = deadline.nanos - before.now.nanos := rfl
    rw [min_nanos, vanishStep_nanos, hsub, ih hbefore] at hnow
    rw [hnow, Nat.succ_mul, Span.nanosPerSecond]
    omega

/-- The clock can hold every sample. -/
theorem towards?_taken (hd : s.now.nanos ≤ deadline.nanos) (k : Nat) :
    ∃ sample, s.towards? deadline k = some sample := by
  induction k with
  | zero => exact ⟨_, rfl⟩
  | succ k ih =>
    obtain ⟨before, hbefore⟩ := ih
    have hle : before.now.nanos ≤ deadline.nanos := by
      rw [towards?_now hd hbefore]
      exact Nat.min_le_right ..
    obtain ⟨after, hslept⟩ := sleep?_towards deadline hle
    exact ⟨after, by rw [towards?, hbefore, Option.bind_some, hslept]⟩

/-- Sleeping for no time is looking. -/
theorem sleep?_of_zero {d : Span} (s : Screen) (h : d.nanos = 0) : s.sleep? d = some s.settle := by
  have hnow : s.now.add? d = some s.now := by
    rw [Span.add?, h, Nat.add_zero]
    exact Span.ofNanos?_nanos s.now
  rw [sleep?, hnow]
  rfl

/-- From the deadline on, all samples are the same. -/
theorem towards?_late (hd : deadline.nanos ≤ s.now.nanos) (k : Nat) :
    s.towards? deadline k = some s.settle := by
  induction k with
  | zero => rfl
  | succ k ih =>
    have hrest : (vanishStep.min (deadline.sub s.settle.now)).nanos = 0 := by
      have hsub : (deadline.sub s.settle.now).nanos = 0 := Nat.sub_eq_zero_of_le hd
      rw [min_nanos, hsub, Nat.min_zero]
    rw [towards?, ih, Option.bind_some, sleep?_of_zero _ hrest, settle_settle]

/-- Sample number `k` of a wait shows the element. -/
def ShownAt (s : Screen) (deadline : Span) (name : String) (k : Nat) : Prop :=
  ∃ sample, s.towards? deadline k = some sample ∧ sample.isVisible name = true

theorem shownAt_zero (h : s.settle.isVisible name = true) : s.ShownAt deadline name 0 :=
  ⟨_, rfl, h⟩

theorem shownAt_succ_iff
    (hslept : s.settle.sleep? (vanishStep.min (deadline.sub s.now)) = some s') {k : Nat} :
    s.ShownAt deadline name (k + 1) ↔ s'.ShownAt deadline name k := by
  rw [ShownAt, towards?_later hslept, ShownAt]

/-! ### Where a wait ends -/

/-- A wait ends at the first sample that does not show the element, or, if every sample shows it,
at the deadline. -/
structure EndsExactly (s : Screen) (deadline : Span) (name : String) (r : Bool × Screen) :
    Prop where
  gone : r.1 = true → ∃ k, s.towards? deadline k = some r.2 ∧ r.2.isVisible name = false ∧
    ∀ j < k, s.ShownAt deadline name j
  stays : r.1 = false ↔ ∀ k, s.ShownAt deadline name k
  late : r.1 = false → r.2.now.nanos = deadline.nanos ∧ ∃ k, s.towards? deadline k = some r.2

theorem Vanishing.endsExactly (hd : s.now.nanos ≤ deadline.nanos)
    (h : Vanishing name deadline s r) : s.EndsExactly deadline name r := by
  induction h with
  | @gone s hhidden =>
    refine ⟨fun _ => ⟨0, rfl, hhidden, nofun⟩, ⟨nofun, fun hall => ?_⟩, nofun⟩
    obtain ⟨_, hsample, hshown⟩ := hall 0
    cases hsample
    rw [hhidden] at hshown
    cases hshown
  | @late s hshown hcome =>
    refine ⟨nofun, ⟨fun _ k => ⟨_, towards?_late hcome k, hshown⟩, fun _ => rfl⟩, fun _ => ?_⟩
    exact ⟨Nat.le_antisymm hd hcome, 0, rfl⟩
  | @again s' r s hshown hahead hslept _ ih =>
    have hlater := ih (stepsTo_step (s := s.settle) hahead hslept).1
    refine ⟨fun hgone => ?_, hlater.stays.trans ⟨fun hall k => ?_, fun hall k => ?_⟩,
      fun hstays => ?_⟩
    · obtain ⟨k, hk, hhidden, hbefore⟩ := hlater.gone hgone
      refine ⟨k + 1, (towards?_later hslept k).trans hk, hhidden, fun j hj => ?_⟩
      cases j with
      | zero => exact shownAt_zero hshown
      | succ j => exact (shownAt_succ_iff hslept).2 (hbefore j (Nat.lt_of_succ_lt_succ hj))
    · cases k with
      | zero => exact shownAt_zero hshown
      | succ k => exact (shownAt_succ_iff hslept).2 (hall k)
    · exact (shownAt_succ_iff hslept).1 (hall (k + 1))
    · obtain ⟨hnow, k, hk⟩ := hlater.late hstays
      exact ⟨hnow, k + 1, (towards?_later hslept k).trans hk⟩

/-- A wait whose deadline the clock can hold takes a sample every second and one at the deadline.
It comes to an end, exactly where `EndsExactly` says, and neither sends nor counts anything. -/
theorem waitVanish?_exact (s : Screen) (name : String)
    (h : s.now.add? timeout = some deadline) :
    (∀ k, ∃ sample, s.towards? deadline k = some sample ∧
      sample.now.nanos = s.now.nanos + min (k * Span.nanosPerSecond) timeout.nanos) ∧
    ∃ gone s', s.waitVanish? name timeout = some (gone, s') ∧
      Vanishing name deadline s (gone, s') ∧ s.EndsExactly deadline name (gone, s') ∧
      s'.inputs = s.inputs ∧ s'.clicks = s.clicks := by
  have hnanos := Span.nanos_of_add? h
  have hd : s.now.nanos ≤ deadline.nanos := Nat.le.intro hnanos.symm
  refine ⟨fun k => ?_, ?_⟩
  · obtain ⟨sample, hsample⟩ := towards?_taken hd k
    refine ⟨sample, hsample, ?_⟩
    rw [towards?_now hd hsample, hnanos, Nat.add_min_add_left]
  · obtain ⟨⟨gone, s'⟩, hwait, hvanishing⟩ := waitVanish?_vanishing name h
    have hperformed : s.perform? (.waitVanish name timeout) = some (.truth gone, s') :=
      congrArg (Option.map _) hwait
    refine ⟨gone, s', hwait, hvanishing, hvanishing.endsExactly hd, perform?_inputs hperformed, ?_⟩
    exact (lasting_clicks s.clicks).performed rfl (fun _ hop => by cases hop) hperformed

/-- The element vanishes between the samples of a wait that goes on for two and a half seconds. -/
theorem waitVanish?_exact_gone :
    let s := ofScenario {
      visible := ["next"]
      rules := [{ afterSecs := some (.finite false (3 * Binary64.one / 2)), hides := ["next"] }] }
    let timeout : Span := ⟨2500000000, by decide⟩
    s.now.add? timeout = some timeout ∧ ∃ s', s.waitVanish? "next" timeout = some (true, s') ∧
      s.EndsExactly timeout "next" (true, s') ∧ s'.now = .ofSeconds 2 := by
  intro s timeout
  have hadd : s.now.add? timeout = some timeout := by decide +kernel
  have hrun : (s.waitVanish? "next" timeout).map (fun r => (r.1, r.2.now)) =
      some (true, .ofSeconds 2) := by decide +kernel
  obtain ⟨-, gone, s', hwait, -, hends, -⟩ := waitVanish?_exact s "next" hadd
  rw [hwait, Option.map_some, Option.some_inj, Prod.mk.injEq] at hrun
  obtain ⟨rfl, hnow⟩ := hrun
  exact ⟨hadd, s', hwait, hends, hnow⟩

end BattlePilot.Screen
