import BattlePilot.Battle.Fight
import BattlePilot.Proofs.Play.Sampling

/-! Fights that do not begin. Bad settings and scripts that cannot be read leave the screen as it
is, and the attack button is not found exactly if none of the samples shows it that the settings
ask for. -/

namespace BattlePilot

/-- What the screen is like when the search for the attack button starts: in one mode a popup is
clicked away before that, if it shows up. -/
inductive Settings.Opened (cfg : Settings) (s : Screen) : Screen → Prop
  | plain (h : cfg.farmingMode ≠ .arcarum) : cfg.Opened s s
  | clear (h : cfg.farmingMode = .arcarum)
    (hs : s.Sought cfg.retry.pollInterval "arcarum_popup" Play.usualTries none s') :
    cfg.Opened s s'
  | clicked (h : cfg.farmingMode = .arcarum)
    (hs : s.Sought cfg.retry.pollInterval "arcarum_popup" Play.usualTries (some p) s₁)
    (hr : s₁.receive? (.click "arcarum_popup" p) = some s') : cfg.Opened s s'

theorem Settings.Opened.unique {cfg : Settings} (h : cfg.Opened s s₁) (h' : cfg.Opened s s₂) :
    s₁ = s₂ := by
  cases h with
  | plain h =>
    cases h' with
    | plain => rfl
    | clear h' | clicked h' => exact absurd h' h
  | clear h hs =>
    cases h' with
    | plain h' => exact absurd h h'
    | clear _ hs' => exact (hs.unique hs').2
    | clicked _ hs' => cases (hs.unique hs').1
  | clicked h hs hr =>
    cases h' with
    | plain h' => exact absurd h h'
    | clear _ hs' => cases (hs.unique hs').1
    | clicked _ hs' hr' =>
      obtain ⟨hp, rfl⟩ := hs.unique hs'
      cases hp
      rw [hr] at hr'
      exact Option.some.inj hr'

/-- At most the popup is clicked. -/
theorem Settings.Opened.inputs {cfg : Settings} {s s' : Screen} (h : cfg.Opened s s') :
    s'.inputs = s.inputs ∨ cfg.farmingMode = .arcarum ∧
      ∃ p, s'.inputs = .click "arcarum_popup" p :: s.inputs := by
  cases h with
  | plain => exact .inl rfl
  | clear _ hs => exact .inl hs.inputs
  | @clicked p _ _ h hs hr =>
    refine .inr ⟨h, p, ?_⟩
    rw [Screen.receive?_inputs hr, hs.inputs]

/-- How often the attack button is looked for. -/
def Settings.anchorLooks (cfg : Settings) : Nat := max cfg.retry.anchorTries.toNat 1

namespace Play
open Battle

variable (cfg : Settings)

/-- The popup is out of the way, or the clock or the clicks leave their range before that. -/
theorem press.opens (h : cfg.farmingMode = .arcarum) (b : Battle) :
    Triple (· = b) (press cfg "arcarum_popup") (fun _ b' => cfg.Opened b.screen b'.screen)
      fun halt _ => halt = .overflow ∧ ∀ s, ¬ cfg.Opened b.screen s := by
  have none_opened (hnot : ∀ answer s, ¬ b.screen.Sought cfg.retry.pollInterval "arcarum_popup"
      usualTries answer s) (s : Screen) : ¬ cfg.Opened b.screen s := by
    intro ho
    cases ho with
    | plain h' => exact h' h
    | clear _ hs | clicked _ hs => exact hnot _ _ hs
  refine .discard (.bind ((find.samples cfg _ usualTries b).mono_halt
    fun _ _ h => ⟨h.1, none_opened fun _ _ => h.2.not_sought⟩) fun answer => ?_)
  cases answer with
  | none => exact .pure fun _ hs => .clear h hs
  | some p =>
    refine .bind (.of_eq fun b₁ hs => (send.receives _ b₁).conseq (fun _ h => h)
      (fun _ _ hr => .clicked h hs hr) ?_) fun _ => .pure fun _ h => h
    rintro halt _ ⟨ho, hnone⟩
    refine ⟨ho, fun s hopened => ?_⟩
    cases hopened with
    | plain h' => exact h' h
    | clear _ hs' => cases (hs.unique hs').1
    | clicked _ hs' hr =>
      obtain ⟨hp, rfl⟩ := hs.unique hs'
      cases hp
      rw [hnone] at hr
      cases hr

/-- On the opened screen the attack button is found and becomes the anchor, or it is not found. -/
theorem find.anchors {next : Option Point → Play Bool} (b : Battle)
    (hsome : ∀ anchor, next (some anchor) = do
      modify fun b => { b with anchor }
      return true)
    (hnone : next none = return false) :
    Triple (fun b' => cfg.Opened b.screen b'.screen)
      (find cfg "attack" cfg.retry.anchorTries.toNat >>= next)
      (fun found b' => ∃ s answer, cfg.Opened b.screen s ∧
        s.Sought cfg.retry.pollInterval "attack" cfg.anchorLooks answer b'.screen ∧
        found = answer.isSome)
      fun halt _ => halt = .overflow ∧ ∀ s, cfg.Opened b.screen s →
        s.CutShort cfg.retry.pollInterval "attack" cfg.anchorLooks := by
  refine .of_eq fun b₁ ho => .bind ((find.samples cfg "attack" _ b₁).mono_halt
    fun _ _ h => ⟨h.1, fun s hs => ho.unique hs ▸ h.2⟩) fun answer => ?_
  cases answer with
  | some anchor =>
    rw [hsome]
    refine .bind (R := fun _ b' => b₁.screen.Sought cfg.retry.pollInterval "attack"
      cfg.anchorLooks (some anchor) b'.screen) (.modify fun _ hs => hs) fun _ => ?_
    exact .pure fun b' hs => ⟨_, _, ho, hs, rfl⟩
  | none =>
    rw [hnone]
    exact .pure fun b' hs => ⟨_, _, ho, hs, rfl⟩

/-- The attack button is found on the opened screen or it is not; the clock and the clicks may leave
their range before that. -/
theorem findAnchor.samples (b : Battle) :
    Triple (· = b) (findAnchor cfg)
      (fun found b' => ∃ s answer, cfg.Opened b.screen s ∧
        s.Sought cfg.retry.pollInterval "attack" cfg.anchorLooks answer b'.screen ∧
        found = answer.isSome)
      fun halt _ => halt = .overflow ∧ ∀ s, cfg.Opened b.screen s →
        s.CutShort cfg.retry.pollInterval "attack" cfg.anchorLooks := by
  unfold findAnchor
  split
  · next h =>
    refine .bind ((press.opens cfg h b).mono_halt ?_) fun _ =>
      find.anchors cfg b (fun _ => rfl) rfl
    exact fun _ _ h => ⟨h.1, fun s hs => absurd hs (h.2 s)⟩
  · next h =>
    exact (find.anchors cfg b (fun _ => rfl) rfl).mono_start fun _ hb => hb ▸ .plain h

end Play

/-- Whether a fight with this error never came to its script. -/
def FightError.isBefore : FightError → Bool
  | settings _ | script _ | anchorNotFound _ => true
  | overflow | unfinished => false

namespace Fight
open Battle

variable {cfg : Settings} {rounds : Nat} {lines : List String} {script : Script} {screen : Screen}

theorem isBefore_of_stopped {b : Battle}
    (h : (b.stopped warnings halt).result = .error e) : e.isBefore = false := by
  cases halt with
  | ended => cases h
  | overflow | unfinished => cases h; rfl

/-- A script that was read is not played only if the attack button was not found. -/
theorem ofScript_before (h : (ofScript cfg rounds script screen).result = .error e)
    (he : e.isBefore = true) :
    ∃ b, (Play.findAnchor cfg).run.run (.start screen) = (.ok false, b) ∧
      e = .anchorNotFound cfg.retry.anchorTries.toNat ∧
      (ofScript cfg rounds script screen).screen = b.screen := by
  unfold ofScript at h ⊢
  match hanchor : (Play.findAnchor cfg).run.run (.start screen) with
  | (.error halt, b) =>
    rw [hanchor] at h
    rw [isBefore_of_stopped h] at he
    cases he
  | (.ok false, b) =>
    rw [hanchor] at h
    cases h
    exact ⟨b, rfl, rfl, rfl⟩
  | (.ok true, b) =>
    simp only [hanchor] at h
    match hdrive : (Play.drive cfg rounds script.commands).run.run b with
    | (.ok never, _) => exact nomatch never
    | (.error halt, b') =>
      rw [hdrive] at h
      rw [isBefore_of_stopped h] at he
      cases he

/-- If no sample shows the attack button, the fight does not begin. -/
theorem ofScript_of_hidden (ho : cfg.Opened screen s)
    (hhidden : s.HiddenFor cfg.retry.pollInterval "attack" cfg.anchorLooks) :
    (ofScript cfg rounds script screen).result =
      .error (.anchorNotFound cfg.retry.anchorTries.toNat) := by
  have hsamples := Play.findAnchor.samples cfg (.start screen)
  unfold ofScript
  match hanchor : (Play.findAnchor cfg).run.run (.start screen) with
  | (.error halt, b) =>
    obtain ⟨k, hk, hnone, -⟩ := (hsamples.of_error rfl hanchor).2 s ho
    obtain ⟨_, htaken, -⟩ := hhidden k hk
    rw [hnone] at htaken
    cases htaken
  | (.ok false, b) => rfl
  | (.ok true, b) =>
    obtain ⟨s', answer, ho', hs, hsome⟩ := hsamples.of_ok rfl hanchor
    cases ho.unique ho'
    cases hs with
    | found hk htaken hseen _ => exact absurd hk (Nat.not_lt.2 (hhidden.lt htaken hseen))
    | missed => cases hsome

/-- Where a fight ends whose attack button was not found: in the last sample. -/
theorem ofScript_anchorNotFound
    (h : (ofScript cfg rounds script screen).result = .error (.anchorNotFound tries)) :
    tries = cfg.retry.anchorTries.toNat ∧ ∃ s, cfg.Opened screen s ∧
      s.HiddenFor cfg.retry.pollInterval "attack" cfg.anchorLooks ∧
      s.sample? cfg.retry.pollInterval (cfg.anchorLooks - 1) =
        some (ofScript cfg rounds script screen).screen := by
  obtain ⟨b, hanchor, he, hscreen⟩ := ofScript_before h rfl
  obtain ⟨s, answer, ho, hs, hsome⟩ :=
    (Play.findAnchor.samples cfg (.start screen)).of_ok rfl hanchor
  cases hs with
  | found => cases hsome
  | missed hlast hhidden => exact ⟨by cases he; rfl, s, ho, hhidden, hscreen ▸ hlast⟩

/-- A fight with settings that are no good, or with a script that cannot be read, leaves the screen
as it is; settings are checked first. The attack button is not found exactly if settings and script
are good and none of the samples shows it, and then at most the popup was clicked away. -/
theorem setup_failures (cfg : Settings) (rounds : Nat) (lines : List String) (screen : Screen) :
    let f := run cfg rounds lines screen
    (∀ fault, f.result = .error (.settings fault) ↔ cfg.fault? = some fault) ∧
      (∀ fault, f.result = .error (.script fault) ↔
        cfg.fault? = none ∧ Script.parse lines = .error fault) ∧
      (((∃ fault, f.result = .error (.settings fault)) ∨
        ∃ fault, f.result = .error (.script fault)) → f.screen = screen ∧ f.journal = []) ∧
      (∀ tries, f.result = .error (.anchorNotFound tries) ↔
        tries = cfg.retry.anchorTries.toNat ∧ cfg.fault? = none ∧
        (∃ script, Script.parse lines = .ok script) ∧
        ∃ s, cfg.Opened screen s ∧
          s.HiddenFor cfg.retry.pollInterval "attack" (max cfg.retry.anchorTries.toNat 1)) ∧
      ∀ tries, f.result = .error (.anchorNotFound tries) →
        (f.screen.inputs = screen.inputs ∨ cfg.farmingMode = .arcarum ∧
          ∃ p, f.screen.inputs = .click "arcarum_popup" p :: screen.inputs) ∧
        (cfg.farmingMode ≠ .arcarum → f.screen.now.nanos =
          screen.now.nanos + (max cfg.retry.anchorTries.toNat 1 - 1) *
            cfg.retry.pollInterval.nanos) := by
  intro f
  match hfault : cfg.fault?, hparse : Script.parse lines with
  | some fault, _ =>
    have hf : f = refused screen (.settings fault) := by simp only [f, run, hfault]
    rw [hf]
    refine ⟨fun _ => ?_, fun _ => ⟨nofun, fun h => nomatch h.1⟩, fun _ => ⟨rfl, rfl⟩,
      fun _ => ⟨nofun, fun h => nomatch h.2.1⟩, nofun⟩
    simp [refused]
  | none, .error fault =>
    have hf : f = refused screen (.script fault) := by simp only [f, run, hfault, hparse]
    rw [hf]
    refine ⟨fun _ => ⟨nofun, nofun⟩, fun _ => ?_, fun _ => ⟨rfl, rfl⟩,
      fun _ => ⟨nofun, fun h => nomatch h.2.2.1⟩, nofun⟩
    simp [refused]
  | none, .ok script =>
    have hf : f = ofScript cfg rounds script screen := by simp only [f, run, hfault, hparse]
    have notFound {e : FightError} (h : f.result = .error e) (he : e.isBefore = true) :
        e = .anchorNotFound cfg.retry.anchorTries.toNat := by
      rw [hf] at h
      obtain ⟨_, -, he, -⟩ := ofScript_before h he
      exact he
    refine ⟨fun _ => ⟨fun h => (nomatch notFound h rfl), nofun⟩,
      fun _ => ⟨fun h => (nomatch notFound h rfl), fun h => (nomatch h.2)⟩,
      fun h => ?_, fun tries => ⟨fun h => ?_, ?_⟩, fun tries h => ?_⟩
    · obtain ⟨_, h⟩ | ⟨_, h⟩ := h <;> cases notFound h rfl
    · rw [hf] at h
      obtain ⟨htries, s, ho, hhidden, -⟩ := ofScript_anchorNotFound h
      exact ⟨htries, rfl, ⟨script, rfl⟩, s, ho, hhidden⟩
    · rintro ⟨rfl, -, -, s, ho, hhidden⟩
      rw [hf]
      exact ofScript_of_hidden ho hhidden
    · rw [hf] at h ⊢
      obtain ⟨-, s, ho, -, hlast⟩ := ofScript_anchorNotFound h
      rw [Screen.sample?_inputs hlast, Screen.sample?_now hlast]
      refine ⟨ho.inputs, fun hplain => ?_⟩
      cases ho with
      | plain => rfl
      | clear hpopup | clicked hpopup => exact absurd hpopup hplain

/-- Three samples of a screen with nothing on it take two pauses. -/
theorem setup_failures_dark :
    let cfg : Settings := { retry := { anchorTries := 3 } }
    let screen := Screen.ofScenario {}
    (run cfg 0 ["end"] screen).result = .error (.anchorNotFound 3) ∧
      (run cfg 0 ["end"] screen).screen.now.nanos =
        screen.now.nanos + 2 * cfg.retry.pollInterval.nanos := by
  intro cfg screen
  have hsamples : ∀ k < 3, (screen.sample? cfg.retry.pollInterval k).any
      (!·.isVisible "attack") = true := by decide +kernel
  have hhidden : screen.HiddenFor cfg.retry.pollInterval "attack" 3 := by
    intro k hk
    obtain ⟨s, hs, hseen⟩ := (Option.any_eq_true _ _).1 (hsamples k hk)
    exact ⟨s, hs, by simpa using hseen⟩
  obtain ⟨-, -, -, hnotFound, hacts⟩ := setup_failures cfg 0 ["end"] screen
  have hplain : cfg.farmingMode ≠ .arcarum := by decide
  have hresult := (hnotFound 3).2
    ⟨rfl, by decide +kernel, ⟨⟨[.endTurn], []⟩, rfl⟩, screen, .plain hplain, hhidden⟩
  have htries : max cfg.retry.anchorTries.toNat 1 - 1 = 2 := by decide
  have hclock := (hacts 3 hresult).2 hplain
  rw [htries] at hclock
  exact ⟨hresult, hclock⟩

end Fight
end BattlePilot
