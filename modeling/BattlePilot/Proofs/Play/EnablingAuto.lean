import BattlePilot.Proofs.Play.TurnCourses
import BattlePilot.Proofs.Play.Durations
import BattlePilot.Proofs.Play.Sampling

/-! Turning automation on is all or nothing. One control or another is tried; whatever shows up
meanwhile, either one of them was pressed and the mode is that of the control, or none was, and one
event tells which it is. -/

namespace BattlePilot

/-- One of the samples of a search shows `name`. -/
def Screen.Shows (s : Screen) (pause : Span) (name : String) (tries : Nat) : Prop :=
  ∃ k < tries, ∃ s', s.sample? pause k = some s' ∧ s'.isVisible name = true

/-- The mode tells which control was clicked: that of full auto, or that of semi auto, unless the
request is for semi auto and it is on already. -/
structure AutoKind.Enables (kind : AutoKind) (isOn : Bool) (labels : List String)
    (mode : AutoMode) : Prop where
  full : mode = .fullAuto ↔ "full_auto" ∈ labels
  semi : mode = .semiAuto ↔ "semi_auto" ∈ labels ∨ (kind = .semi ∧ isOn = true)
  attack : labels.count "attack" ≤ 1

theorem Screen.ClickTried.clicked_of_shows {s s' : Screen}
    (h : s.ClickTried pause name tries found s') (hs : s.Shows pause name tries) :
    found = true := by
  cases h with
  | clicked => rfl
  | missed hsought =>
    cases hsought with
    | missed _ hhidden =>
      obtain ⟨k, hk, s₁, hsample, hseen⟩ := hs
      exact absurd hk (Nat.not_lt.2 (hhidden.lt hsample hseen))

namespace Play
open Battle

variable (cfg : Settings) {b₀ : Battle} {labels : List String}

/-! ### Trying the controls -/

/-- The label of a control, if it was clicked. -/
def clickIf (clicked : Bool) (name : String) : List String := if clicked then [name] else []

/-- The labels clicked while the controls are tried. -/
def controlClicks (attack semi full : Bool) : List String :=
  clickIf attack "attack" ++ clickIf semi "semi_auto" ++ clickIf full "full_auto"

theorem AutoKind.enables_controlClicks {kind : AutoKind} {isOn : Bool} (attack semi full : Bool)
    (hfull : mode = .fullAuto ↔ full = true)
    (hsemi : mode = .semiAuto ↔ semi = true ∨ (kind = .semi ∧ isOn = true)) :
    kind.Enables isOn (controlClicks attack semi full) mode where
  full := hfull.trans (by cases attack <;> cases semi <;> cases full <;> decide)
  semi := hsemi.trans (by
    cases attack <;> cases semi <;> cases full <;> simp [controlClicks, clickIf])
  attack := by cases attack <;> cases semi <;> cases full <;> decide

theorem findAndClick.clicking (name : String) (tries : Nat) :
    Triple (b₀.Clicks labels) (findAndClick cfg name tries)
      (fun clicked => b₀.Clicks (labels ++ clickIf clicked name)) fun _ => b₀.Clicks labels := by
  have seeks : ∀ op, ScreenOp.Seeks name op → op.clicked? = none := by
    intro op hop
    cases op with
    | input => cases hop
    | _ => rfl
  refine .of_eq fun b hb => ?_
  apply (findAndClick.pressed cfg name tries b).conseq (fun _ h => h)
  · intro clicked b' h
    cases h with
    | clicked h =>
      obtain ⟨b₁, p, answer, s, ha, hs, rfl⟩ := h
      exact (hb.asks seeks ha).answered hs
    | missed h => simpa [clickIf] using hb.asks seeks h
  · exact fun _ _ h => hb.asks seeks h.2

/-- Where trying the controls may stop. -/
def Trying (b₀ b : Battle) : Prop := ∃ labels, b₀.Clicks labels b

theorem trySemiAfterAttack.clicking :
    Triple (b₀.Clicks []) (trySemiAfterAttack cfg)
      (fun semi b => ∃ attack, b₀.Clicks (controlClicks attack semi false) b)
      fun _ => Trying b₀ := by
  have attack : Triple (b₀.Clicks []) (press cfg "attack")
      (fun _ b => ∃ attack, b₀.Clicks (clickIf attack "attack") b) fun _ => Trying b₀ :=
    .discard ((findAndClick.clicking cfg "attack" usualTries).conseq (fun _ h => h)
      (fun attack _ hb => ⟨attack, hb⟩) fun _ _ hb => ⟨_, hb⟩)
  refine .bind attack fun _ => .of_eq fun b ⟨attack, hb⟩ => ?_
  apply (findAndClick.clicking cfg "semi_auto" 5).conseq (fun _ h => h ▸ hb)
  · intro semi b' h
    exact ⟨attack, by simpa [controlClicks, clickIf] using h⟩
  · exact fun _ _ h => ⟨_, h⟩

/-- What came of trying a control and those to fall back on: which were clicked, and the mode. A
control of full auto that shows up is all that is clicked on a request for it. -/
def Tries (kind : AutoKind) (b : Battle) (mode : AutoMode) (b' : Battle) : Prop :=
  ∃ attack semi full, b.Clicks (controlClicks attack semi full) b' ∧
    (mode = .fullAuto ↔ full = true) ∧
    (mode = .semiAuto ↔ semi = true ∨
      (kind = .semi ∧ b.screen.settle.isVisible "semi_auto_enabled" = true)) ∧
    (kind = .full → b.screen.Shows cfg.retry.pollInterval "full_auto" usualTries →
      controlClicks attack semi full = ["full_auto"])

theorem tryFull.tries (b : Battle) :
    Triple (· = b) (tryFull cfg) (Tries cfg .full b) fun _ => Trying b := by
  have first : Triple (· = b) (findAndClick cfg "full_auto" usualTries)
      (fun full b' => (b.screen.Shows cfg.retry.pollInterval "full_auto" usualTries →
        full = true) ∧ b.Clicks (controlClicks false false full) b') fun _ => Trying b := by
    apply ((findAndClick.clicking cfg "full_auto" usualTries).both
      (findAndClick.samples cfg "full_auto" usualTries b)).conseq
    · rintro _ rfl
      exact ⟨.refl _, rfl⟩
    · exact fun _ _ h => ⟨h.2.clicked_of_shows, h.1⟩
    · exact fun _ _ h => ⟨[], h.1⟩
  apply Triple.bind first
  intro full
  apply Triple.of_fact
  intro hshows
  cases full with
  | true => exact .pure fun b' hb => ⟨false, false, true, hb, by simp, by simp, fun _ _ => rfl⟩
  | false =>
    apply Triple.bind (trySemiAfterAttack.clicking cfg)
    intro semi
    have hidden {labels : List String} : AutoKind.full = .full →
        b.screen.Shows cfg.retry.pollInterval "full_auto" usualTries → labels = ["full_auto"] :=
      fun _ hs => nomatch hshows hs
    cases semi with
    | true =>
      exact .pure fun b' ⟨attack, hb⟩ => ⟨attack, true, false, hb, by simp, by simp, hidden⟩
    | false =>
      exact .pure fun b' ⟨attack, hb⟩ => ⟨attack, false, false, hb, by simp, by simp, hidden⟩

theorem trySemi.tries (b : Battle) :
    Triple (· = b) (trySemi cfg) (Tries cfg .semi b) fun _ => Trying b := by
  have first : Triple (· = b) (find cfg "semi_auto_enabled" 1)
      (fun found b' => found.isSome = b.screen.settle.isVisible "semi_auto_enabled" ∧
        b.Clicks [] b') fun _ => Trying b := by
    refine ⟨fun b' h => ?_⟩
    subst h
    have hrun : (find cfg "semi_auto_enabled" 1).run.run b' = _ := look_run _ b'
    have hclicks : b'.Clicks [] (b'.answered (.find "semi_auto_enabled") _ _) :=
      (Clicks.refl b').answered rfl
    rw [hrun]
    exact ⟨Screen.isSome_find .., hclicks⟩
  apply Triple.bind first
  intro found
  apply Triple.of_fact
  intro hfound
  split
  · next h =>
    exact .pure fun b' hb => ⟨false, false, false, hb, by simp, by simp [← hfound, h], nofun⟩
  · next h =>
    have hoff := eq_false_of_ne_true (hfound ▸ h)
    apply Triple.bind (trySemiAfterAttack.clicking cfg)
    intro semi
    cases semi with
    | true =>
      exact .pure fun b' ⟨attack, hb⟩ => ⟨attack, true, false, hb, by simp, by simp, nofun⟩
    | false =>
      refine .of_eq fun b₁ ⟨attack, hb⟩ => ?_
      have last : Triple (· = b₁) (findAndClick cfg "full_auto" usualTries)
          (fun full => b.Clicks (controlClicks attack false full)) fun _ => Trying b := by
        apply (findAndClick.clicking cfg "full_auto" usualTries).conseq (fun _ h => h ▸ hb)
        · intro full b' h
          simpa [controlClicks, clickIf] using h
        · exact fun _ _ h => ⟨_, h⟩
      apply Triple.bind last
      intro full
      cases full with
      | true =>
        exact .pure fun b' hb => ⟨attack, false, true, hb, by simp, by simp [hoff], nofun⟩
      | false =>
        exact .pure fun b' hb => ⟨attack, false, false, hb, by simp, by simp [hoff], nofun⟩

/-- Tries to turn automation of a kind on. -/
def tryAuto : AutoKind → Play AutoMode
  | .full => tryFull cfg
  | .semi => trySemi cfg

theorem tryAuto.tries (kind : AutoKind) (b : Battle) :
    Triple (· = b) (tryAuto cfg kind) (Tries cfg kind b) fun _ => Trying b := by
  cases kind with
  | full => exact tryFull.tries cfg b
  | semi => exact trySemi.tries cfg b

/-! ### Noting what comes of it -/

/-- Tries to turn automation of a kind on, and notes what comes of it. -/
def attempt (kind : AutoKind) : Play Unit := do
  let mode ← tryAuto cfg kind
  if mode = .manual then setback .autoUnavailable
  setAutoMode mode

theorem enableAuto_eq (kind : AutoKind) : enableAuto cfg kind = (do
    if (← get).state.autoMode.isActive then return
    else
      modifyState fun s => { s with suspendedAuto := none }
      attempt cfg kind) := by
  cases kind <;> rfl

end Play

/-- The battle in a mode, where it was played by hand, and what is noted of that. -/
def Battle.attempted (b : Battle) (mode : AutoMode) : Battle :=
  (b.inState fun s => { s with autoMode := mode }).noted <|
    if mode = .manual then .recovered b.state.currentTurn .autoUnavailable
    else .autoModeChanged .manual mode

namespace Play
open Battle

variable (cfg : Settings)

theorem attempt.concludes {b : Battle} (hm : b.state.autoMode = .manual) (mode : AutoMode) :
    Triple (· = b) (do
        if mode = .manual then setback .autoUnavailable
        setAutoMode mode) (fun _ b' => b' = b.attempted mode) fun _ _ => False := by
  refine ⟨fun b' h => ?_⟩
  subst h
  obtain ⟨screen, state, anchor, journal, dispatched⟩ := b'
  obtain ⟨turn, target, autoMode, suspended, attacksOn, retreated, outcome, start⟩ := state
  cases hm
  cases mode <;> rfl

theorem attempt.attempts {b : Battle} (hm : b.state.autoMode = .manual) (kind : AutoKind) :
    Triple (· = b) (attempt cfg kind)
      (fun _ b' => ∃ mode b₁, Tries cfg kind b mode b₁ ∧ b' = b₁.attempted mode)
      fun _ => Trying b := by
  apply Triple.bind (tryAuto.tries cfg kind b)
  intro mode
  refine .of_eq fun b₁ hb => ?_
  have hm₁ : b₁.state.autoMode = .manual := by
    obtain ⟨attack, semi, full, ⟨new, hnew, -⟩, -⟩ := hb
    rw [hnew.state, hm]
  exact (attempt.concludes hm₁ mode).conseq (fun _ h => h) (fun _ _ h => ⟨mode, b₁, hb, h⟩)
    fun _ _ => False.elim

theorem enableAuto.attempts {b : Battle} (hm : b.state.autoMode = .manual) (kind : AutoKind) :
    Triple (· = b) (enableAuto cfg kind)
      (fun _ b' => ∃ mode b₁, Tries cfg kind b.released mode b₁ ∧ b' = b₁.attempted mode)
      fun _ => Trying b.released := by
  rw [enableAuto_eq]
  refine .get_bind fun b' h => ?_
  subst h
  have hidle : ¬ b'.state.autoMode.isActive = true := by
    rw [hm]
    exact Bool.false_ne_true
  have hreleased : b'.released.state.autoMode = .manual := hm
  rw [if_neg hidle]
  apply Triple.bind (R := fun _ => (· = b'.released)) (.modify fun _ h => h ▸ rfl)
  exact fun _ => attempt.attempts cfg hreleased kind

/-! ### How long it takes -/

/-- What may be clicked to turn automation on. -/
def autoControls : List String := ["attack", "semi_auto", "full_auto"]

theorem trySemiAfterAttack.takes :
    Takes autoControls (8 * cfg.retry.pollInterval.nanos) (trySemiAfterAttack cfg) := by
  have attack : Takes autoControls (4 * cfg.retry.pollInterval.nanos) (press cfg "attack") :=
    press.takes cfg (by decide)
  have semi : Takes autoControls (4 * cfg.retry.pollInterval.nanos)
      (findAndClick cfg "semi_auto" 5) := findAndClick.takes cfg (by decide) 5
  exact (attack.bind fun _ => semi).mono (by omega)

theorem tryAuto.takes (kind : AutoKind) :
    Takes autoControls (12 * cfg.retry.pollInterval.nanos) (tryAuto cfg kind) := by
  have full : Takes autoControls (4 * cfg.retry.pollInterval.nanos)
      (findAndClick cfg "full_auto" usualTries) := findAndClick.takes cfg (by decide) usualTries
  have after := trySemiAfterAttack.takes cfg
  cases kind with
  | full =>
    have whole : Takes autoControls (4 * cfg.retry.pollInterval.nanos +
        8 * cfg.retry.pollInterval.nanos) (tryFull cfg) := by
      apply full.bind
      intro clicked
      split
      · exact .pure _
      · apply after.bind_zero
        intro clicked
        split <;> exact .pure _
    exact whole.mono (by omega)
  | semi =>
    have whole : Takes autoControls (8 * cfg.retry.pollInterval.nanos +
        4 * cfg.retry.pollInterval.nanos) (trySemi cfg) := by
      apply Takes.zero_bind ((find.takes cfg "semi_auto_enabled" 1).mono (by omega))
      intro found
      split
      · exact .pure _
      apply after.bind
      intro clicked
      split
      · exact .pure _
      · apply full.bind_zero
        intro clicked
        split <;> exact .pure _
    exact whole.mono (by omega)

theorem enableAuto.takes (kind : AutoKind) :
    Takes autoControls (12 * cfg.retry.pollInterval.nanos) (enableAuto cfg kind) := by
  have conclude (mode : AutoMode) : Takes autoControls 0 (do
      if mode = .manual then setback .autoUnavailable
      setAutoMode mode) := by
    have set : Takes autoControls 0 (setAutoMode mode) := by
      apply Takes.get_bind
      intro b
      dsimp only
      split
      · exact .bind_zero (.modify fun _ => rfl) fun _ => .modify fun _ => rfl
      · exact .pure _
    dsimp only
    split
    · exact .bind_zero (.turn_bind fun _ => .modify fun _ => rfl) fun _ => set
    · exact set
  rw [enableAuto_eq]
  apply Takes.get_bind
  intro b
  split
  · exact .pure _
  · exact .zero_bind (.modify fun _ => rfl) fun _ => (tryAuto.takes cfg kind).bind_zero conclude

/-! ### All or nothing -/

/-- What comes of turning automation on where it is off: the mode changes, or a setback says that
it could not be turned on. A number may leave its range before that. -/
inductive EnablesAuto (cfg : Settings) (kind : AutoKind) (b : Battle) :
    Except Halt Unit × Battle → Prop
  | tried (hnew : b.Since new b')
      (hstate : b'.state = { b.state with autoMode := mode, suspendedAuto := none })
      (hkept : b'.anchor = b.anchor ∧ b'.dispatched = b.dispatched)
      (hevents : new.events = [if mode = .manual then
        .recovered b.state.currentTurn .autoUnavailable else .autoModeChanged .manual mode])
      (hclicks : kind.Enables (b.screen.settle.isVisible "semi_auto_enabled") new.clicks mode)
      (hfull : kind = .full → b.screen.Shows cfg.retry.pollInterval "full_auto" 5 →
        new.clicks = ["full_auto"]) :
    EnablesAuto cfg kind b (.ok (), b')
  | overflow (hnew : b.Since new b') (hevents : new.events = [])
      (hstate : b'.state = { b.state with suspendedAuto := none })
      (hover : b'.screen.Overruns autoControls
        (b.screen.now.nanos + 12 * cfg.retry.pollInterval.nanos)) :
    EnablesAuto cfg kind b (.error .overflow, b')

/-- Turning automation on changes nothing where it is on already, and is all or nothing where it is
off. -/
theorem enableAuto_allOrNothing (cfg : Settings) (kind : AutoKind) (b : Battle) :
    if b.state.autoMode.isActive then (enableAuto cfg kind).run.run b = (.ok (), b)
    else EnablesAuto cfg kind b ((enableAuto cfg kind).run.run b) := by
  split
  · next hactive =>
    have hrun : (enableAuto cfg kind).run.run b =
        (if b.state.autoMode.isActive then pure () else do
          modifyState fun s => { s with suspendedAuto := none }
          attempt cfg kind : Play Unit).run.run b := by
      rw [enableAuto_eq]
      rfl
    rw [hrun, if_pos hactive]
    rfl
  · next hidle =>
    have hm := AutoMode.eq_manual (eq_false_of_ne_true hidle)
    have attempts := enableAuto.attempts cfg hm kind
    rcases hrun : (enableAuto cfg kind).run.run b with ⟨halt | ⟨⟩, b'⟩
    · obtain ⟨rfl, -, hover⟩ := (enableAuto.takes cfg kind _).of_error (Nat.le_refl _) hrun
      obtain ⟨labels, new, hnew, -⟩ := attempts.of_error rfl hrun
      exact .overflow ⟨hnew.journal, hnew.screen⟩ hnew.events hnew.state hover
    · obtain ⟨mode, b₁, ⟨attack, semi, full, hclicks, hfull, hsemi, hshows⟩, rfl⟩ :=
        attempts.of_ok rfl hrun
      obtain ⟨new, hnew, hclicks⟩ := hclicks
      have hsince : b.Since new b₁ := ⟨hnew.journal, hnew.screen⟩
      have hset : b.Since new (b₁.inState fun s => { s with autoMode := mode }) :=
        hsince.kept rfl rfl
      have hstate : b₁.state = { b.state with suspendedAuto := none } := hnew.state
      have hmode : (b₁.attempted mode).state =
          { b.state with autoMode := mode, suspendedAuto := none } := by
        rw [attempted, noted, inState, hstate]
      refine .tried (hset.noted _) hmode ⟨hnew.anchor, hnew.dispatched⟩ ?_ ?_ ?_
      · rw [Journal.events_event, hnew.events, hstate]
        rfl
      · rw [Journal.clicks_event, hclicks]
        exact AutoKind.enables_controlClicks attack semi full hfull hsemi
      · rw [Journal.clicks_event, hclicks]
        exact hshows

end Play
end BattlePilot
