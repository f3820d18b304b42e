import BattlePilot.Proofs.Play.Durations
import BattlePilot.Proofs.Play.KeepingCourses
import BattlePilot.Proofs.Play.QuietCourses
import BattlePilot.Proofs.Play.Sampling
import BattlePilot.Proofs.Screen.Windows

/-! Recovering from an attack that stalls. The page is reloaded exactly if the sign of an attack in
progress shows up and then lingers in every wait, and settling an attack takes a bounded time. -/

namespace BattlePilot

/-- The screen after a wait, which is none if there is no time to wait. -/
def Screen.waited? (s : Screen) (d : Span) : Option Screen :=
  if d.isZero then some s else s.sleep? d

namespace Settings

/-- An attack stalls: the sign of it is found in one of three samples, and outlasts the waits. -/
def AttackStalls (cfg : Settings) (s s' : Screen) : Prop :=
  ∃ p s₁, s.Sought cfg.retry.pollInterval "combat_cancel" 3 (some p) s₁ ∧
    s₁.Outlasts "combat_cancel" cfg.retry.stallTimeout (.ofSeconds 1)
      cfg.retry.maxStallWaits.toNat s'

/-- The longest that it takes to settle an attack, in nanoseconds. -/
def settleTime (cfg : Settings) : Nat :=
  15 * cfg.retry.pollInterval.nanos +
    cfg.retry.maxStallWaits.toNat * (cfg.retry.stallTimeout.nanos + (Span.ofSeconds 1).nanos) +
    cfg.retry.reloadWait.nanos

end Settings

namespace Play
open Battle Relation

/-! ### Waiting -/

theorem waitVanish.waits (name : String) (timeout : Span) (b : Battle) :
    Triple (· = b) (waitVanish name timeout)
      (fun gone b' => b.screen.waitVanish? name timeout = some (gone, b'.screen))
      fun _ _ => True := by
  apply Triple.bind ((perform.answers (.waitVanish name timeout) b).mono_halt fun _ _ _ => trivial)
  intro answer
  refine .of_eq fun b₁ h => ?_
  obtain ⟨⟨gone, s⟩, hwait, h⟩ := Option.map_eq_some_iff.1 h
  cases h
  exact .pure fun b' h => h ▸ hwait

theorem wait.waits (d : Span) (b : Battle) :
    Triple (· = b) (wait d) (fun _ b' => b.screen.waited? d = some b'.screen)
      fun _ _ => True := by
  unfold wait Screen.waited?
  split
  · exact .pure fun b' h => h ▸ rfl
  · exact (sleep.sleeps d b).mono_halt fun _ _ _ => trivial

variable (cfg : Settings)

/-! ### Seeing an attack stall -/

/-- Whether the sign of an attack shows up and stays. -/
def seesStall : Play Bool := do
  if (← find cfg "combat_cancel" 3).isSome then stalls cfg cfg.retry.maxStallWaits.toNat
  else return false

theorem settleAttack_eq : settleAttack cfg = (do
    if ← seesStall cfg then
      reload cfg .stall
      resyncAnchor cfg) := by
  rw [settleAttack, seesStall, bind_assoc]
  refine bind_congr fun found => ?_
  cases found <;> rfl

/-- An attack is found to stall exactly if the sign of it outlasts the waits. -/
theorem stalls.outlasts (waits : Nat) (b : Battle) :
    Triple (· = b) (stalls cfg waits)
      (fun stalled b' => if stalled
        then b.screen.Outlasts "combat_cancel" cfg.retry.stallTimeout (.ofSeconds 1) waits b'.screen
        else ∀ s, ¬ b.screen.Outlasts "combat_cancel" cfg.retry.stallTimeout (.ofSeconds 1) waits s)
      fun _ _ => True := by
  induction waits generalizing b with
  | zero => exact .pure fun b' h => h ▸ .done
  | succ waits ih =>
    apply Triple.bind (waitVanish.waits "combat_cancel" cfg.retry.stallTimeout b)
    intro gone
    refine .of_eq fun b₁ hgone => ?_
    cases gone with
    | true =>
      refine .pure fun b' h s hs => ?_
      cases hs with
      | again hl =>
        rw [← Screen.waitVanish?_eq_false_iff, hgone] at hl
        cases hl
    | false =>
      have hl := Screen.waitVanish?_eq_false_iff.1 hgone
      apply Triple.bind (wait.waits (.ofSeconds 1) b₁)
      intro _
      refine .of_eq fun b₂ hs => ?_
      apply (ih b₂).mono_value
      intro stalled b' h
      cases stalled with
      | true => exact .again hl hs h
      | false =>
        intro s houtlasts
        cases houtlasts with
        | again hl' hs' h' =>
          obtain rfl := hl.unique hl'
          have hs : b₁.screen.sleep? (.ofSeconds 1) = some b₂.screen := hs
          rw [hs] at hs'
          cases hs'
          exact h _ h'

theorem seesStall.tells (b : Battle) :
    Triple (· = b) (seesStall cfg)
      (fun stalled b' => ∃ new, b.Queried new b' ∧ .find "reload" ∉ new.ops ∧
        if stalled then cfg.AttackStalls b.screen b'.screen
        else ∀ s, ¬ cfg.AttackStalls b.screen s)
      fun _ _ => True := by
  have looks : Within (Ask (· ≠ .find "reload")) (find cfg "combat_cancel" 3) :=
    find.asks (A := (· ≠ .find "reload")) cfg (by decide) (fun _ => nofun) _
  have watches : Within (Ask (· ≠ .find "reload"))
      (stalls cfg cfg.retry.maxStallWaits.toNat) :=
    stalls.asks cfg (fun _ => nofun) (fun _ => nofun) _
  have asks : Within (Ask (· ≠ .find "reload")) (seesStall cfg) := by
    apply Within.bind looks
    intro found
    split
    · exact watches
    · exact .pure _
  have tells : Triple (· = b) (seesStall cfg)
      (fun stalled b' => if stalled then cfg.AttackStalls b.screen b'.screen
        else ∀ s, ¬ cfg.AttackStalls b.screen s) fun _ _ => True := by
    apply Triple.bind ((find.samples cfg "combat_cancel" 3 b).mono_halt fun _ _ _ => trivial)
    intro found
    refine .of_eq fun b₁ hsought => ?_
    cases found with
    | some p =>
      apply (stalls.outlasts cfg _ b₁).mono_value
      intro stalled b' h
      cases stalled with
      | true => exact ⟨p, b₁.screen, hsought, h⟩
      | false =>
        rintro s ⟨p', s₁, hsought', houtlasts⟩
        obtain ⟨-, rfl⟩ := hsought.unique hsought'
        exact h s houtlasts
    | none =>
      refine .pure ?_
      rintro _ - s ⟨p', s₁, hsought', -⟩
      cases (hsought.unique hsought').1
  apply ((asks.queried b).both tells).conseq (fun _ h => ⟨h, h⟩)
  · rintro stalled b' ⟨⟨new, hnew, hops⟩, h⟩
    exact ⟨new, hnew, fun hreload => hops _ hreload rfl, h⟩
  · exact fun _ _ _ => trivial

/-! ### How long it takes -/

theorem reload.takes (reason : ReloadReason) : Takes ["reload"]
    (4 * cfg.retry.pollInterval.nanos + cfg.retry.reloadWait.nanos) (reload cfg reason) := by
  apply Takes.bind (findAndClick.takes cfg (by decide) usualTries)
  intro clicked
  dsimp only
  split
  · apply Takes.turn_bind
    intro turn
    exact .zero_bind (.modify fun _ => rfl) fun _ => wait.takes _
  · exact wait.takes _

theorem resyncAnchor.takes :
    Takes labels (9 * cfg.retry.pollInterval.nanos) (resyncAnchor cfg) := by
  apply Takes.bind_option_zero (find.takes cfg "attack" 10)
  · exact fun _ => .modify fun _ => rfl
  · exact .turn_bind fun _ => .modify fun _ => rfl

theorem stalls.takes (waits : Nat) : Takes labels
    (waits * (cfg.retry.stallTimeout.nanos + (Span.ofSeconds 1).nanos)) (stalls cfg waits) := by
  induction waits with
  | zero => exact .pure _
  | succ waits ih =>
    rw [Nat.succ_mul, Nat.add_comm, Nat.add_assoc]
    apply Takes.bind (waitVanish.takes _ _)
    intro gone
    split
    · exact .pure _
    · exact .bind (wait.takes _) fun _ => ih

theorem seesStall.takes : Takes labels
    (2 * cfg.retry.pollInterval.nanos + cfg.retry.maxStallWaits.toNat *
      (cfg.retry.stallTimeout.nanos + (Span.ofSeconds 1).nanos)) (seesStall cfg) := by
  apply Takes.bind (find.takes cfg "combat_cancel" 3)
  intro found
  split
  · exact stalls.takes cfg _
  · exact .pure _

theorem settleAttack.takes : Takes ["reload"] cfg.settleTime (settleAttack cfg) := by
  have recover (stalled : Bool) : Takes ["reload"]
      (4 * cfg.retry.pollInterval.nanos + cfg.retry.reloadWait.nanos +
        9 * cfg.retry.pollInterval.nanos) (if stalled then do
          reload cfg .stall
          resyncAnchor cfg
        else pure ()) := by
    split
    · exact .bind (reload.takes cfg _) fun _ => resyncAnchor.takes cfg
    · exact .pure _
  rw [settleAttack_eq]
  refine (Takes.bind (seesStall.takes cfg) recover).mono ?_
  rw [Settings.settleTime]
  omega

/-! ### Recovering -/

/-- An element is pressed: it is looked for, and clicked where it is found. -/
theorem findAndClick.presses (name : String) (tries : Nat) (b : Battle) :
    Triple (· = b) (findAndClick cfg name tries)
      (fun clicked b' => ∃ new, b.Queried new b' ∧ .find name ∈ new.ops ∧
        b.screen.ClickTried cfg.retry.pollInterval name (max tries 1) clicked b'.screen)
      fun _ _ => True := by
  have whole := (((findAndClick.asks cfg tries).queried b).both
    (findAndClick.samples cfg name tries b)).both (findAndClick.opens cfg name tries b.journal)
  apply whole.conseq
  · rintro _ rfl
    exact ⟨⟨rfl, rfl⟩, rfl⟩
  · rintro clicked b' ⟨⟨⟨new, hnew, -⟩, hs⟩, rest, clock, answer, hj, -⟩
    refine ⟨new, hnew, ?_, hs⟩
    have hsplit : new ++ b.journal = rest ++ [.call clock (.find name) answer] ++ b.journal := by
      rw [← hnew.journal, hj, List.append_assoc]
      rfl
    rw [List.append_cancel_right hsplit]
    simp
  · exact fun _ _ _ => trivial

/-- The page was to be reloaded: it is noted if it was, and the wait is taken in any case. -/
theorem reload.reloads (reason : ReloadReason) (b : Battle) :
    Triple (· = b) (reload cfg reason)
      (fun _ b' => ∃ new clicked s, b.Since new b' ∧ b'.anchor = b.anchor ∧
        b'.state = b.state ∧ .find "reload" ∈ new.ops ∧
        new.events = (if clicked then [.reloaded b.state.currentTurn reason] else []) ∧
        b.screen.ClickTried cfg.retry.pollInterval "reload" 5 clicked s ∧
        s.waited? cfg.retry.reloadWait = some b'.screen)
      fun _ _ => True := by
  have rest (b : Battle) : Triple (· = b) (wait cfg.retry.reloadWait)
      (fun _ b' => ∃ new, b.Queried new b' ∧
        b.screen.waited? cfg.retry.reloadWait = some b'.screen) fun _ _ => True := by
    have asks : Within (Ask fun _ => True) (wait cfg.retry.reloadWait) := wait.asks trivial
    apply ((asks.queried b).both (wait.waits _ b)).conseq (fun _ h => ⟨h, h⟩)
    · exact fun _ _ ⟨⟨new, hnew, _⟩, hwaited⟩ => ⟨new, hnew, hwaited⟩
    · exact fun _ _ _ => trivial
  apply Triple.bind (findAndClick.presses cfg "reload" usualTries b)
  intro clicked
  refine .of_eq fun b₁ ⟨new, hnew, hlooked, hclick⟩ => ?_
  dsimp only
  split
  · next h =>
    apply Triple.turn_bind
    rintro b₁ rfl
    apply Triple.bind (R := fun _ => (· = b₁.noted (.reloaded b₁.state.currentTurn reason)))
      (.modify fun _ h => h ▸ rfl)
    intro _
    apply (rest _).mono_value
    rintro _ b' ⟨later, hlater, hwaited⟩
    refine ⟨_, clicked, b₁.screen, (hnew.toSince.noted _).trans hlater.toSince,
      hlater.anchor.trans hnew.anchor, hlater.state.trans hnew.state, ?_, ?_, hclick, hwaited⟩
    · rw [Journal.ops_append, Journal.ops_event]
      exact List.mem_append_left _ hlooked
    · rw [Journal.events_append, Journal.events_event, hnew.events, hlater.events, if_pos h,
        hnew.state]
      rfl
  · next h =>
    apply (rest b₁).mono_value
    rintro _ b' ⟨later, hlater, hwaited⟩
    refine ⟨_, clicked, b₁.screen, hnew.toSince.trans hlater.toSince,
      hlater.anchor.trans hnew.anchor, hlater.state.trans hnew.state, ?_, ?_, hclick, hwaited⟩
    · rw [Journal.ops_append]
      exact List.mem_append_left _ hlooked
    · rw [Journal.events_append, hnew.events, hlater.events, if_neg h]
      rfl

/-- The anchor moves to where the attack button is found; it is noted if it is not. -/
theorem resyncAnchor.resyncs (b : Battle) :
    Triple (· = b) (resyncAnchor cfg)
      (fun _ b' => ∃ new found, b.Since new b' ∧ b'.anchor = found.getD b.anchor ∧
        new.events =
          (if found.isSome then [] else [.recovered b.state.currentTurn .anchorLost]) ∧
        b.screen.Sought cfg.retry.pollInterval "attack" 10 found b'.screen)
      fun _ _ => True := by
  have asks : Within (Ask fun _ => True) (find cfg "attack" 10) :=
    find.asks cfg trivial (fun _ => trivial) _
  have looks : Triple (· = b) (find cfg "attack" 10)
      (fun found b' => ∃ new, b.Queried new b' ∧
        b.screen.Sought cfg.retry.pollInterval "attack" 10 found b'.screen) fun _ _ => True := by
    apply ((asks.queried b).both (find.samples cfg "attack" 10 b)).conseq (fun _ h => ⟨h, h⟩)
    · exact fun _ _ ⟨⟨new, hnew, _⟩, hs⟩ => ⟨new, hnew, hs⟩
    · exact fun _ _ _ => trivial
  apply Triple.bind looks
  intro found
  refine .of_eq fun b₁ ⟨new, hnew, hs⟩ => ?_
  cases found with
  | some p =>
    refine .modify fun b' h => ?_
    subst h
    exact ⟨new, some p, hnew.toSince.kept rfl rfl, rfl, hnew.events, hs⟩
  | none =>
    refine .turn_bind fun b₂ h => .modify fun b' h' => ?_
    subst h'
    subst h
    refine ⟨_, none, hnew.toSince.noted _, hnew.anchor, ?_, hs⟩
    rw [Journal.events_event, hnew.events, hnew.state]
    rfl

/-- How settling an attack ends, where `new` has been added to the journal. -/
inductive SettlesAttack (cfg : Settings) (b : Battle) (new : Journal) :
    Except Halt Unit × Battle → Prop
  /-- The attack does not stall, and no reload is tried. -/
  | settled {b' : Battle} (hstall : ∀ s, ¬ cfg.AttackStalls b.screen s)
      (hreload : .find "reload" ∉ new.ops) (hevents : new.events = [])
      (hanchor : b'.anchor = b.anchor) : SettlesAttack cfg b new (.ok (), b')
  /-- It stalls: a reload is tried, and the attack button is looked for after it. -/
  | recovered {b' : Battle} {stalled pressed reloaded : Screen} {clicked : Bool}
      {found : Option Point} (hstall : cfg.AttackStalls b.screen stalled)
      (hreload : .find "reload" ∈ new.ops)
      (hclick : stalled.ClickTried cfg.retry.pollInterval "reload" 5 clicked pressed)
      (hwait : pressed.waited? cfg.retry.reloadWait = some reloaded)
      (hfind : reloaded.Sought cfg.retry.pollInterval "attack" 10 found b'.screen)
      (hevents : new.events =
        (if clicked then [.reloaded b.state.currentTurn .stall] else []) ++
          if found.isSome then [] else [.recovered b.state.currentTurn .anchorLost])
      (hanchor : b'.anchor = found.getD b.anchor) : SettlesAttack cfg b new (.ok (), b')
  /-- The clock cannot hold the time, or a click on the control cannot be counted. -/
  | overflow {b' : Battle}
      (h : b'.screen.Overruns ["reload"] (b.screen.now.nanos + cfg.settleTime)) :
    SettlesAttack cfg b new (.error .overflow, b')

theorem settleAttack.settles (b : Battle) :
    Triple (· = b) (settleAttack cfg)
      (fun _ b' => ∃ new, b.Since new b' ∧ SettlesAttack cfg b new (.ok (), b'))
      fun _ _ => True := by
  rw [settleAttack_eq]
  apply Triple.bind (seesStall.tells cfg b)
  intro stalled
  refine .of_eq fun b₁ ⟨new, hnew, hreload, hstall⟩ => ?_
  cases stalled with
  | false =>
    refine .pure fun b' h => ?_
    subst h
    exact ⟨new, hnew.toSince, .settled hstall hreload hnew.events hnew.anchor⟩
  | true =>
    apply Triple.bind (reload.reloads cfg .stall b₁)
    intro _
    refine .of_eq fun b₂ ⟨new₂, clicked, s, hnew₂, ha₂, hs₂, hreload₂, he₂, hclick, hwait⟩ => ?_
    apply (resyncAnchor.resyncs cfg b₂).mono_value
    rintro _ b' ⟨new₃, found, hnew₃, ha₃, he₃, hfind⟩
    refine ⟨_, hnew.toSince.trans (hnew₂.trans hnew₃),
      .recovered hstall ?_ hclick hwait hfind ?_ ?_⟩
    · simp [hreload₂]
    · rw [Journal.events_append, Journal.events_append, hnew.events, he₂, he₃, hs₂, hnew.state]
      rfl
    · rw [ha₃, ha₂, hnew.anchor]

/-- Recovery is for attacks that stall, and for nothing else: a reload is tried exactly then. What
is noted tells whether the page was reloaded and whether the attack button was found after it, which
is where the anchor moves. All this takes a bounded time, and what the pilot knows of the battle
stays as it is. -/
theorem settleAttack_recovers (b : Battle) :
    ∃ new, b.Since new ((settleAttack cfg).run.run b).2 ∧
      SettlesAttack cfg b new ((settleAttack cfg).run.run b) ∧
      ((settleAttack cfg).run.run b).2.state = b.state ∧
      ((settleAttack cfg).run.run b).2.screen.now.nanos ≤
        b.screen.now.nanos + cfg.settleTime := by
  have state : Triple (· = b) (settleAttack cfg) (fun _ b' => b'.state = b.state)
      fun _ b' => b'.state = b.state :=
    ((settleAttack.mends cfg).entire b).conseq (fun _ h => h) (fun _ _ h => Mends.state h)
      fun _ _ h => Mends.state h.2
  have since : Keeps (fun b' => ∃ new, b.Since new b') (settleAttack cfg) :=
    settleAttack.keeps cfg (Since.steady (N := fun _ => True) b) fun _ _ => trivial
  have takes := settleAttack.takes cfg b.screen.now.nanos
  have hstart : ∃ new, b.Since new b := ⟨[], .refl b⟩
  rcases hrun : (settleAttack cfg).run.run b with ⟨halt | u, b'⟩
  · obtain ⟨new, hnew⟩ := since.of_error hstart hrun
    obtain ⟨rfl, hclock, hcause⟩ := takes.of_error (Nat.le_refl _) hrun
    exact ⟨new, hnew, .overflow hcause, state.of_error rfl hrun, hclock⟩
  · obtain ⟨new, hnew, hsettles⟩ := (settleAttack.settles cfg b).of_ok rfl hrun
    exact ⟨new, hnew, hsettles, state.of_ok rfl hrun, takes.of_ok (Nat.le_refl _) hrun⟩

end Play
end BattlePilot
