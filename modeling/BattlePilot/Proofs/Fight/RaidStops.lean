import BattlePilot.Proofs.Fight.Justified
import BattlePilot.Proofs.Fight.Markers
import BattlePilot.Proofs.Play.Rounds
import BattlePilot.Proofs.Play.Durations

/-! A raid with a time limit stops. Each round of playing on takes a second at least, as the
settings are checked for that, and no round is begun once the time is used up. -/

namespace BattlePilot

theorem Span.nanos_ofSeconds (n : UInt64) : (ofSeconds n).nanos = n.toNat * 1000000000 := rfl

namespace Settings

/-- Rounds that are enough for the time that a raid is given. -/
def enoughRounds (cfg : Settings) : Nat :=
  cfg.raid.timeAllowedSecs.toNat / cfg.retry.autoPollSecs.toNat + 2

theorem autoPoll_pos {cfg : Settings} (h : cfg.fault? = none) :
    0 < cfg.retry.autoPollSecs.toNat := by
  rw [Nat.pos_iff_ne_zero]
  intro hzero
  have hpoll : cfg.retry.autoPollSecs = 0 := UInt64.toNat_inj.1 hzero
  unfold fault? at h
  split at h
  · cases h
  · rw [if_pos hpoll] at h
    cases h

theorem budget_le {cfg : Settings} (h : cfg.fault? = none) :
    (Span.ofSeconds cfg.raid.timeAllowedSecs).nanos ≤
      (cfg.enoughRounds - 1) * cfg.retry.autoPoll.nanos := by
  have hmod := Nat.div_add_mod cfg.raid.timeAllowedSecs.toNat cfg.retry.autoPollSecs.toNat
  have hlt := Nat.mod_lt cfg.raid.timeAllowedSecs.toNat (autoPoll_pos h)
  have hle : cfg.raid.timeAllowedSecs.toNat ≤
      (cfg.enoughRounds - 1) * cfg.retry.autoPollSecs.toNat := by
    rw [enoughRounds, Nat.add_sub_assoc (by decide), Nat.add_mul, Nat.mul_comm]
    omega
  rw [RetrySettings.autoPoll, Span.nanos_ofSeconds, Span.nanos_ofSeconds, ← Nat.mul_assoc]
  exact Nat.mul_le_mul_right _ hle

end Settings

namespace Battle

variable {cfg : Settings} {K : Deed → Prop} {b b₁ b' : Battle}

/-- The battle began when it did, and the clock has not gone back. -/
structure Lasts (b b' : Battle) : Prop where
  startedAt : b'.state.startedAt = b.state.startedAt
  now_le : b.screen.now.nanos ≤ b'.screen.now.nanos

namespace Lasts

theorem refl (b : Battle) : Lasts b b := ⟨rfl, Nat.le_refl _⟩

theorem trans (h : Lasts b b₁) (h' : Lasts b₁ b') : Lasts b b' :=
  ⟨h'.startedAt.trans h.startedAt, Nat.le_trans h.now_le h'.now_le⟩

theorem elapsed_le (h : Lasts b b') : (Play.elapsed b).nanos ≤ (Play.elapsed b').nanos := by
  have hnow := h.now_le
  change b.screen.now.nanos - b.state.startedAt.nanos ≤
    b'.screen.now.nanos - b'.state.startedAt.nanos
  rw [h.startedAt]
  omega

end Lasts

theorem Aside.lasts (h : Aside W b b') : Lasts b b' := by
  cases h with
  | ask h =>
    cases h with
    | mk _ h => exact ⟨rfl, Screen.perform?_now_le h⟩
  | _ => exact ⟨rfl, Nat.le_refl _⟩

theorem Does.lasts (h : Does cfg d b b') : Lasts b b' := by
  cases h with
  | backedOut _ _ h | left _ h => exact ⟨rfl, Screen.perform?_now_le h⟩
  | _ => exact ⟨rfl, Nat.le_refl _⟩

theorem Moves.lasts (h : Moves cfg K b b') : Lasts b b' := by
  refine h.keeps (I := Lasts b) (fun b₁ b₂ h hb => hb.trans ?_) (.refl b)
  cases h with
  | aside h => exact h.lasts
  | deed _ h => exact h.lasts

end Battle

namespace Play
open Battle

variable {cfg : Settings} {K : Deed → Prop} {P : BattleState → Prop}

/-! ### The clock along a course -/

/-- A course that comes to an end of itself, while the clock goes on. -/
theorem Course.lasts {m : Play α} {Q : α → BattleState → Prop} (H : Course cfg K P m Q)
    (hf : Finishes m) (b₀ : Battle) :
    Triple (fun b => Lasts b₀ b ∧ P b.state) m (fun a b => Lasts b₀ b ∧ Q a b.state)
      fun halt _ => halt ≠ .unfinished := by
  refine .of_eq fun b ⟨hb, hp⟩ => ?_
  apply (Triple.both (H.alone b hp) hf).conseq
  · exact fun _ h => ⟨h, trivial⟩
  · exact fun _ _ h => ⟨hb.trans h.1.1.lasts, h.1.2⟩
  · exact fun _ _ h => h.2

/-- A look for an end finds one once the time is used up. -/
theorem check.inTime (hbudget : cfg.timeBudget? = some budget) (b₀ : Battle) :
    Triple (· = b₀) (check cfg)
      (fun _ b => Lasts b₀ b ∧ Stays b.state ∧ (elapsed b).nanos < budget.nanos)
      fun halt _ => halt ≠ .unfinished := by
  have finishes : Finishes (check cfg) := .of_orderly (check.orderly cfg)
  apply (Triple.both (check.alone cfg b₀) finishes).conseq
  · exact fun _ h => ⟨h, trivial⟩
  · intro _ b ⟨⟨ha, hf⟩, _⟩
    have moves : Moves cfg (fun _ => False) b₀ b := ha.moves
    exact ⟨moves.lasts, hf.open.stays, hf.elapsed_lt nofun hbudget⟩
  · exact fun _ _ h => h.2

/-! ### Enough rounds -/

/-- A battle that has begun, and for which no more is left of a budget than so many waits between
two rounds. -/
structure Nearing (cfg : Settings) (budget : Span) (waits : Nat) (b : Battle) : Prop where
  begun : b.state.startedAt.nanos ≤ b.screen.now.nanos
  left : budget.nanos ≤ (elapsed b).nanos + waits * cfg.retry.autoPoll.nanos

theorem Nearing.lasts {b b' : Battle} (hb : Nearing cfg budget waits b) (h : Lasts b b') :
    Nearing cfg budget waits b' := by
  have helapsed := h.elapsed_le
  have hleft := hb.left
  refine ⟨?_, by omega⟩
  rw [h.startedAt]
  exact Nat.le_trans hb.begun h.now_le

/-- One wait less is left after a wait. -/
theorem Nearing.waited {b b' : Battle} (hb : Nearing cfg budget (waits + 1) b)
    (hs : b'.state = b.state)
    (hn : b'.screen.now.nanos = b.screen.now.nanos + cfg.retry.autoPoll.nanos) :
    Nearing cfg budget waits b' := by
  have hbegun := hb.begun
  have helapsed : (elapsed b').nanos = (elapsed b).nanos + cfg.retry.autoPoll.nanos := by
    change b'.screen.now.nanos - b'.state.startedAt.nanos =
      b.screen.now.nanos - b.state.startedAt.nanos + cfg.retry.autoPoll.nanos
    rw [hs, hn]
    omega
  constructor
  · rw [hs, hn]
    exact Nat.le_trans hbegun (Nat.le_add_right ..)
  · rw [helapsed, Nat.add_assoc, Nat.add_comm cfg.retry.autoPoll.nanos, ← Nat.succ_mul]
    exact hb.left

/-- A round is begun only while there is time left, and it takes one wait at least. -/
theorem keepOn.enough {round : Play Unit} (hround : Course cfg K Stays round fun _ => Anyhow)
    (hf : Finishes round) (hbudget : cfg.timeBudget? = some budget) (waits : Nat) :
    Triple (Nearing cfg budget waits) (keepOn cfg round (waits + 1)) (fun _ _ => True)
      fun halt _ => halt ≠ .unfinished := by
  have next : Course cfg K Stays (pressNext cfg) fun _ => Stays := pressNext.course cfg
  have pressed : Finishes (pressNext cfg) := .of_orderly (pressNext.orderly cfg)
  induction waits with
  | zero =>
    refine .of_eq fun b hb => .bind (check.inTime hbudget b) fun _ => ?_
    -- no time is left, so that the look has found an end
    refine ⟨fun b₁ ⟨hlasts, _, htime⟩ => ?_⟩
    have hleft := (hb.lasts hlasts).left
    omega
  | succ waits ih =>
    refine .of_eq fun b hb => .bind (check.inTime hbudget b) fun _ => ?_
    refine .bind (((next.lasts pressed b).mono_start fun _ h => ⟨h.1, h.2.1⟩)) fun _ => ?_
    refine .bind (hround.lasts hf b) fun _ => .of_eq fun b₁ hb₁ => ?_
    refine .bind (wait.passes _ b₁) fun _ => ih.mono_start fun b₂ h => ?_
    exact (hb.lasts hb₁.1).waited h.1 h.2

theorem handOver.finishes (cfg : Settings) : Finishes (handOver cfg) :=
  .of_orderly (handOver.orderly cfg)

/-- Playing on ends within enough rounds. -/
theorem playOn.enough (hbudget : cfg.timeBudget? = some budget) (waits : Nat) :
    Triple (Nearing cfg budget waits) (playOn cfg (waits + 1)) (fun _ _ => True)
      fun halt _ => halt ≠ .unfinished := by
  have inPlay := Deed.Onward.inPlay
  have watch : Triple (Nearing cfg budget waits) (watchAuto cfg (waits + 1)) (fun _ _ => True)
      fun halt _ => halt ≠ .unfinished := by
    rw [watchAuto_eq]
    exact keepOn.enough (.discard (wipeCheck.course cfg inPlay.fallen))
      (wipeCheck.finishes cfg).discard hbudget waits
  have attack : Triple (Nearing cfg budget waits) (attackOn cfg (waits + 1)) (fun _ _ => True)
      fun halt _ => halt ≠ .unfinished := by
    rw [attackOn_eq]
    exact keepOn.enough (attackOnce.course cfg inPlay) (attackOnce.finishes cfg) hbudget waits
  refine .of_eq fun b hb => .bind (check.inTime hbudget b) fun _ => ?_
  refine .bind (R := fun _ => Lasts b) ?_ fun moved => ?_
  · have seek : Course cfg Deed.Onward Anyhow (findAndClick cfg "next" 3) fun _ => Anyhow :=
      findAndClick.course cfg (by decide) 3
    have looks : Finishes (findAndClick cfg "next" 3) := .of_within (findAndClick.asks cfg 3)
    have seen : Course cfg Deed.Onward Anyhow
        (onlyIf (cfg.farmingMode == .raid) (findAndClick cfg "next" 3)) fun _ => Anyhow :=
      .onlyIf seek fun _ h => h
    have looked : Finishes (onlyIf (cfg.farmingMode == .raid) (findAndClick cfg "next" 3)) := by
      unfold onlyIf
      split
      · exact looks
      · exact .pure fun _ _ => trivial
    exact (seen.lasts looked b).conseq (fun _ h => ⟨h.1, trivial⟩) (fun _ _ h => h.1)
      fun _ _ h => h
  · split
    · exact ⟨fun _ _ => nofun⟩
    · refine .get_bind fun b₁ hb₁ => ?_
      split
      · exact attack.mono_start fun _ h => h ▸ hb.lasts hb₁
      · have hand := (handOver.course cfg inPlay).lasts (handOver.finishes cfg) b₁
        refine .bind (hand.mono_start fun _ h => ?_) fun _ => ?_
        · subst h
          exact ⟨.refl _, trivial⟩
        refine .get_bind fun b₂ hb₂ => ?_
        have hnearing := hb.lasts (hb₁.trans hb₂.1)
        split
        · exact watch.mono_start fun _ h => h ▸ hnearing
        · exact attack.mono_start fun _ h => h ▸ hnearing

theorem drive.enough (hbudget : cfg.timeBudget? = some budget) (waits : Nat)
    (commands : List Command) :
    Triple (Nearing cfg budget waits) (drive cfg (waits + 1) commands) (fun _ _ => True)
      fun halt _ => halt ≠ .unfinished := by
  have finishes : Finishes (steps cfg commands) := .of_orderly (steps.orderly cfg trivial commands)
  refine .of_eq fun b hb => .bind (R := fun _ => Nearing cfg budget waits) ?_ fun _ =>
    playOn.enough hbudget waits
  apply (finishes.mono_start fun _ _ => trivial).with_run.conseq
  · exact fun _ h => h
  · exact fun _ _ h => hb.lasts (steps_moves_any h.2).lasts
  · exact fun _ _ h => h

end Play

namespace Fight
open Battle

variable {cfg : Settings} {rounds : Nat} {lines : List String} {screen : Screen} {script : Script}

theorem stopped_unfinished_iff {b : Battle} {halt : Halt} :
    (b.stopped warnings halt).result = .error .unfinished ↔ halt = .unfinished := by
  cases halt with
  | ended outcome => exact ⟨nofun, nofun⟩
  | overflow => exact ⟨nofun, nofun⟩
  | unfinished => exact ⟨fun _ => rfl, fun _ => rfl⟩

/-- A fight that ends before its rounds are used up ends in the same way with more of them. -/
theorem ofScript_extends (h : rounds ≤ rounds')
    (hf : (ofScript cfg rounds script screen).result ≠ .error .unfinished) :
    ofScript cfg rounds' script screen = ofScript cfg rounds script screen := by
  unfold ofScript at hf ⊢
  match hanchor : (Play.findAnchor cfg).run.run (.start screen) with
  | (.error _, _) | (.ok false, _) => rfl
  | (.ok true, b) =>
    rw [hanchor] at hf
    have hdrive := Play.drive.extends cfg h script.commands b
    match hrun : (Play.drive cfg rounds script.commands).run.run b with
    | (.ok never, _) => exact nomatch never
    | (.error halt, b') =>
      rw [hrun] at hdrive
      simp only [hrun] at hf
      rw [ne_eq, stopped_unfinished_iff] at hf
      simp only [hrun, hdrive fun h => hf (Except.error.inj h)]

theorem run_extends (h : rounds ≤ rounds')
    (hf : (run cfg rounds lines screen).result ≠ .error .unfinished) :
    run cfg rounds' lines screen = run cfg rounds lines screen := by
  unfold run at hf ⊢
  split
  · rfl
  · split
    · rfl
    · next hfault _ script hscript =>
      simp only [hfault, hscript] at hf
      exact ofScript_extends h hf

/-- With more rounds than none a fight goes on from where it stops with none. -/
theorem ofScript_prolongs (cfg : Settings) (rounds : Nat) (script : Script) (screen : Screen) :
    ∃ later, (ofScript cfg rounds script screen).journal =
      later ++ (ofScript cfg 0 script screen).journal := by
  by_cases hf : (ofScript cfg 0 script screen).result = .error .unfinished
  · unfold ofScript at hf ⊢
    match hanchor : (Play.findAnchor cfg).run.run (.start screen) with
    | (.error _, _) | (.ok false, _) => exact ⟨[], rfl⟩
    | (.ok true, b) =>
      rw [hanchor] at hf
      obtain ⟨played, hplayed⟩ := Play.drive.prolongs cfg rounds script.commands b
      match hrun₀ : (Play.drive cfg 0 script.commands).run.run b,
          hrun : (Play.drive cfg rounds script.commands).run.run b with
      | (.ok never, _), _ | _, (.ok never, _) => exact nomatch never
      | (.error halt₀, b₀), (.error halt, b') =>
        simp only [hrun₀] at hf
        obtain rfl := stopped_unfinished_iff.1 hf
        obtain ⟨noted, hnoted⟩ := stopped_grows b' script.warnings halt
        rw [hrun₀, hrun] at hplayed
        simp only [hrun₀, hrun]
        exact ⟨noted ++ played, by rw [hnoted, hplayed, List.append_assoc]; rfl⟩
  · exact ⟨[], congrArg Fight.journal (ofScript_extends (Nat.zero_le rounds) hf)⟩

theorem ofScript_enough (hbudget : cfg.timeBudget? = some budget)
    (hwaits : budget.nanos ≤ waits * cfg.retry.autoPoll.nanos) :
    (ofScript cfg (waits + 1) script screen).result ≠ .error .unfinished := by
  have start : Play.Nearing cfg budget waits (.start screen) :=
    ⟨Nat.le_refl _, Nat.le_trans hwaits (Nat.le_add_left ..)⟩
  unfold ofScript
  match hanchor : (Play.findAnchor cfg).run.run (.start screen) with
  | (.error halt, b) =>
    have hquiet := (Play.findAnchor.quiet cfg (W := fun _ => True)).entire (.start screen)
    obtain ⟨rfl, -⟩ := hquiet.of_error rfl hanchor
    nofun
  | (.ok false, b) => nofun
  | (.ok true, b) =>
    have moves : Moves cfg (fun _ => False) (.start screen) b :=
      Asides.moves ((Play.findAnchor.spec cfg (.start screen)).of_ok rfl hanchor)
    match hrun : (Play.drive cfg (waits + 1) script.commands).run.run b with
    | (.ok never, _) => exact nomatch never
    | (.error halt, b') =>
      have hne := (Play.drive.enough hbudget waits script.commands).of_error
        (start.lasts moves.lasts) hrun
      simp only [hrun]
      rw [ne_eq, stopped_unfinished_iff]
      exact hne

/-- A raid with a time limit ends: it needs no more rounds of playing on than its time allows, and
having more of them changes nothing. Of what it waits for meanwhile, an element that is to vanish
is watched until the deadline at most, and a marker is approached until the counter is there. -/
theorem raid_stops (hmode : cfg.farmingMode = .raid) (hexit : cfg.raid.autoExit = true)
    (hfault : cfg.fault? = none) (lines : List String) (screen : Screen) :
    ((run cfg cfg.enoughRounds lines screen).result ≠ .error .unfinished ∧
      ∀ rounds, cfg.enoughRounds ≤ rounds →
        run cfg rounds lines screen = run cfg cfg.enoughRounds lines screen) ∧
    (∀ (s : Screen) name timeout deadline, s.now.add? timeout = some deadline →
      ∃ r, s.waitVanish? name timeout = some r ∧ Screen.Vanishing name deadline s r) ∧
    ∀ left rounds (b : Battle), b.state.currentTurn + left = b.state.targetTurn → left < rounds →
      (Play.catchUp cfg rounds).run.run b = (Play.fastForward cfg left).run.run b := by
  have hbudget : cfg.timeBudget? = some (.ofSeconds cfg.raid.timeAllowedSecs) :=
    if_pos ⟨hmode, hexit⟩
  have hends : (run cfg cfg.enoughRounds lines screen).result ≠ .error .unfinished := by
    unfold run
    simp only [hfault]
    split
    · nofun
    · exact ofScript_enough hbudget (Settings.budget_le hfault)
  refine ⟨⟨hends, fun rounds h => run_extends h hends⟩, ?_, ?_⟩
  · intro s name timeout deadline h
    exact Screen.waitVanish?_vanishing name h
  · intro left rounds b ht hr
    exact Play.catchUp_eq ht hr

/-- A raid of three seconds, which automation plays on without an end in sight. -/
theorem raid_stops_idle :
    let cfg : Settings := { farmingMode := .raid, raid := { autoExit := true, timeAllowedSecs := 3 } }
    let screen := Screen.ofScenario { visible := ["attack", "full_auto"] }
    cfg.enoughRounds = 5 ∧
      (run cfg cfg.enoughRounds ["turn 1:"] screen).result ≠ .error .unfinished ∧
      ∀ rounds, cfg.enoughRounds ≤ rounds →
        run cfg rounds ["turn 1:"] screen = run cfg cfg.enoughRounds ["turn 1:"] screen := by
  intro cfg screen
  have hfault : cfg.fault? = none := by decide +kernel
  exact ⟨by decide +kernel, (raid_stops rfl rfl hfault ["turn 1:"] screen).1⟩

end Fight
end BattlePilot
