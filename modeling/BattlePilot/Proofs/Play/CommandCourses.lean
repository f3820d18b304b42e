import BattlePilot.Proofs.Play.TurnCourses

/-! The courses of the commands of a script, and of a step through it. A step looks for an end
first; it plays its command right after that, or passes it over. -/

namespace BattlePilot

namespace Battle

/-- What may be done while a command is played; only a marker opens a block. -/
def Deed.During (command : Command) : Deed → Prop
  | turnEnded | enabled | released | fallen | attacksOn => True
  | suspended | aimed | opened | skipped => command.isMarker = true
  | dispatched _ => False

/-- A step through the script, up to the last look for an end. -/
inductive Plays (cfg : Settings) (command : Command) (b₀ b : Battle) : Prop
  | passed (h : Moves cfg (Deed.During command) b₀ b)
  | played (ha : Asks cfg.Light b₀ b₁) (hd : Does cfg (.dispatched command) b₁ b₂)
    (h : Moves cfg (Deed.During command) b₂ b)

theorem Plays.moves (hK : ∀ d, Deed.During command d → K d) (hd : K (.dispatched command))
    (h : Plays cfg command b₀ b) : Moves cfg K b₀ b := by
  cases h with
  | passed h => exact h.mono hK
  | played ha hdoes h => exact (ha.moves.tail (.deed hd hdoes)).trans (h.mono hK)

end Battle

namespace Play
open Battle

variable (cfg : Settings) {K : Deed → Prop}

/-! ### Chains and summons -/

theorem runOps.course (hk : InPlay K) (slot : UInt8) :
    ∀ ops last, Course cfg K Anyhow (runOps cfg slot last ops) fun _ => Anyhow := by
  intro ops last
  fun_induction runOps cfg slot last ops with
  | case1 => exact .quiet (press.quiet cfg (.inl rfl))
  | case2 last skill ally rest ih₁ ih₂ =>
    refine .bind (.quiet (useSkill.quiet cfg skill)) fun _ => ?_
    refine .bind (.quiet (confirm.quiet cfg _ _)) fun asked => ?_
    split
    · refine .bind (.quiet (selectAlly.quiet cfg ally)) fun _ => ?_
      exact .bind (.quiet (idle.quiet _)) fun _ => ih₁
    · refine .bind (.quiet (skipSealed.quiet cfg slot skill)) fun _ => ?_
      exact .bind (.quiet (idle.quiet _)) fun _ => ih₂
  | case3 last skill rest _ ih =>
    refine .bind (.quiet (useSkill.quiet cfg skill)) fun _ => ?_
    refine .bind (.quiet (skipSealed.quiet cfg slot skill)) fun _ => ?_
    exact .bind (.quiet (idle.quiet _)) fun _ => ih
  | case4 last ally rest ih => exact .bind (.quiet (setback.quiet _)) fun _ => ih
  | case5 last d rest ih => exact .bind (.quiet (wait.quiet _)) fun _ => ih
  | case6 =>
    exact .bind (.quiet (press.quiet cfg (.inl rfl))) fun _ => endTurn.course cfg hk

theorem runCharacter.course (hk : InPlay K) (slot : UInt8) (ops : List SkillOp) :
    Course cfg K Anyhow (runCharacter cfg slot ops) fun _ => Anyhow := by
  unfold runCharacter
  split
  · exact .pure fun _ h => h
  · refine .bind (.quiet (doubleClickSlot.quiet (slotLabel_light rfl rfl _) _)) fun _ => ?_
    exact runOps.course cfg hk slot ops 0

theorem runFollowUps.course (hk : InPlay K) :
    ∀ after, Course cfg K Anyhow (runFollowUps cfg after) fun _ => Anyhow
  | [] => .pure fun _ h => h
  | .wait _ :: rest => .bind (.quiet (wait.quiet _)) fun _ => runFollowUps.course hk rest
  | .attack :: _ => endTurn.course cfg hk

theorem runSummon.course (hk : InPlay K) (slot : UInt8) (after : List FollowUp) :
    Course cfg K Anyhow (runSummon cfg slot after) fun _ => Anyhow := by
  unfold runSummon
  split
  · exact .pure fun _ h => h
  · refine .bind (.quiet (press.quiet cfg (.inl rfl))) fun _ => ?_
    refine .bind (.quiet (doubleClickSlot.quiet (slotLabel_light rfl rfl _) _)) fun _ => ?_
    refine .bind (.quiet (confirmSummon.quiet cfg slot)) fun _ => ?_
    refine .bind (.quiet (.discard (findAndClick.quiet cfg (.inl rfl) _))) fun _ => ?_
    exact .bind (.quiet (idle.quiet _)) fun _ => runFollowUps.course cfg hk after

theorem runQuickSummon.course (hk : InPlay K) (after : List FollowUp) :
    Course cfg K Anyhow (runQuickSummon cfg after) fun _ => Anyhow := by
  have rest := runFollowUps.course cfg hk after
  have refused : Course cfg K Anyhow (do
      setback .quickSummonNotReady
      runFollowUps cfg after) fun _ => Anyhow := .bind (.quiet (setback.quiet _)) fun _ => rest
  refine .bind (.quiet (look.quiet _)) fun notReady => ?_
  split
  · exact refused
  · refine .bind (.quiet (pressQuickSummon.quiet cfg)) fun pressed => ?_
    split
    · exact rest
    · exact refused

/-! ### Turns by hand -/

theorem playByHand.course (hk : InPlay K) (action : HandAction) :
    Course cfg K Anyhow (playByHand cfg action) fun _ => Anyhow := by
  have finish : Course cfg K Anyhow finishTurn fun _ => Anyhow := finishTurn.anyhow hk.turnEnded
  have await : Course cfg K Anyhow (do
      discard (waitForAttack cfg resolveTries)
      finishTurn) fun _ => Anyhow :=
    .bind (.discard (waitForAttack.course cfg hk.fallen _)) fun _ => finish
  cases action with
  | attack =>
    refine .bind (findAndClick.course cfg (by decide) _) fun clicked => ?_
    split
    · exact .bind (.quiet (settleAttack.quiet cfg)) fun _ => finish
    · exact .pure fun _ h => h
  | attackAndBack =>
    refine .bind (findAndClick.course cfg (by decide) _) fun clicked => ?_
    split
    · refine .bind (.quiet (settleAttack.quiet cfg)) fun _ => ?_
      exact .bind (press.course cfg (by decide)) fun _ => await
    · exact .pure fun _ h => h
  | back =>
    refine .bind (findAndClick.course cfg (by decide) _) fun clicked => ?_
    split
    · exact await
    · exact .pure fun _ h => h
  | reload =>
    refine .bind (findAndClick.course cfg (by decide) _) fun clicked => ?_
    split
    · refine .bind (.quiet (.discard (waitVanish.quiet _ _))) fun _ => ?_
      refine .bind (.quiet (reload.quiet cfg _)) fun _ => ?_
      exact .bind (.quiet (resyncAnchor.quiet cfg)) fun _ => finish
    · exact .pure fun _ h => h

/-! ### Commands -/

/-- What a command does once it has been counted; an exit is left aside. -/
theorem act.course (hk : InPlay K) (ha : K .attacksOn) {command : Command}
    (he : command ≠ .exit) : Course cfg K Anyhow (act cfg command) fun _ => Anyhow := by
  cases command with
  | turn n => exact .pure fun _ h => h
  | endTurn => exact endTurn.course cfg hk
  | character slot ops => exact runCharacter.course cfg hk slot ops
  | summon slot after => exact runSummon.course cfg hk slot after
  | quickSummon after => exact runQuickSummon.course cfg hk after
  | item item target => exact .quiet (useItem.quiet cfg item target)
  | targetEnemy enemy => exact .quiet (targetEnemy.quiet cfg enemy)
  | enableAuto kind => exact enableAuto.course cfg hk kind
  | requestBackup viaSocial =>
    cases viaSocial with
    | false => exact .quiet (requestBackup.quiet cfg)
    | true => exact .quiet (tweetBackup.quiet cfg)
  | wait d => exact .quiet (wait.quiet d)
  | byHand action => exact playByHand.course cfg hk action
  | repeatAttack => exact .modify ha fun _ _ => ⟨.attacksOn, trivial⟩
  | exit => exact absurd rfl he

theorem Deed.During.inPlay (command : Command) : InPlay (Deed.During command) where
  turnEnded := trivial
  fallen := trivial
  enabled := trivial
  released := trivial

theorem Deed.During.onMarker {command : Command} (h : command.isMarker = true) :
    OnMarker (Deed.During command) where
  toInPlay := inPlay command
  suspended := h
  aimed := h
  opened := h
  skipped := h

theorem dispatch_eq {command : Command} (hm : command.isMarker = false) :
    dispatch cfg command = (do
      record (.dispatched (← currentTurn) command)
      modify fun b => { b with dispatched := b.dispatched + 1 }
      act cfg command
      check cfg) := by
  cases command with
  | turn n => cases hm
  | _ => rfl

/-- What a command that has been counted does, and the look for an end that follows. -/
theorem actAndCheck.spec {command : Command} {b : Battle} (hm : command.isMarker = false)
    (hf : Finds cfg none b)
    (hg : runsAnywhere command = true ∨
      b.state.autoMode.isActive = false ∧ b.state.inSync = true) :
    Spec (· = b.counted command) (do
        act cfg command
        check cfg)
      (fun _ b' => ∃ b₁, Does cfg (.dispatched command) b b₁ ∧
        Moves cfg (Deed.During command) b₁ b')
      fun outcome b' => ∃ b₁, Does cfg (.dispatched command) b b₁ ∧
        Halted cfg (Deed.During command) b₁ outcome b' := by
  by_cases he : command = .exit
  · -- leaving is part of the deed itself, so that only the look is left
    subst he
    have left : Spec (· = b.counted .exit) (act cfg .exit)
        (fun _ => Does cfg (.dispatched .exit) b) fun _ _ => False := by
      refine ⟨fun b' h => ?_⟩
      subst h
      exact .left hf rfl
    refine .bind left.of_never fun _ => .of_eq fun b₁ hd => ?_
    exact ((check.course cfg (P := Anyhow)).alone b₁ trivial).mono_result
      (fun _ _ h => ⟨b₁, hd, h.1⟩) fun _ _ h => ⟨b₁, hd, h⟩
  · have hd : Does cfg (.dispatched command) b (b.counted command) :=
      .dispatched hf he (fun n h => by rw [h] at hm; cases hm) hg
    have hact := act.course cfg (Deed.During.inPlay command) trivial he
    have play : Course cfg (Deed.During command) Anyhow (do
        act cfg command
        check cfg) fun _ => Anyhow := .bind hact fun _ => (check.course cfg).forget
    exact (play.alone _ trivial).mono_result (fun _ _ h => ⟨_, hd, h.1⟩) fun _ _ h => ⟨_, hd, h⟩

/-- A command that is not a marker is counted at once. -/
theorem dispatch.spec {command : Command} {b : Battle} (hm : command.isMarker = false)
    (hf : Finds cfg none b)
    (hg : runsAnywhere command = true ∨
      b.state.autoMode.isActive = false ∧ b.state.inSync = true) :
    Spec (· = b) (dispatch cfg command)
      (fun _ b' => ∃ b₁, Does cfg (.dispatched command) b b₁ ∧
        Moves cfg (Deed.During command) b₁ b')
      fun outcome b' => ∃ b₁, Does cfg (.dispatched command) b b₁ ∧
        Halted cfg (Deed.During command) b₁ outcome b' := by
  rw [dispatch_eq cfg hm]
  refine .turn_bind fun b₁ h => ?_
  subst h
  refine .bind (R := fun _ b' => b' = b₁.noted (.dispatched b₁.state.currentTurn command))
    (.modify fun _ h => h ▸ rfl) fun _ => ?_
  refine .bind (R := fun _ b' => b' = b₁.counted command) (.modify fun _ h => h ▸ rfl) fun _ => ?_
  exact actAndCheck.spec cfg hm hf hg

/-- A step plays its command or passes it over; a marker opens its block. -/
theorem step.spec (command : Command) (b₀ : Battle) :
    Spec (· = b₀) (step cfg command)
      (fun _ b => Plays cfg command b₀ b ∧
        ∀ n, command = .turn n → Entered cfg n.toNat b.state)
      fun outcome b =>
        ∃ b₁, Plays cfg command b₀ b₁ ∧ Verdict cfg outcome b₁ ∧ b = b₁.concluded outcome := by
  refine .bind ((check.alone cfg b₀).mono_ended
    fun _ _ ⟨b₁, h, hv, hb⟩ => ⟨b₁, .passed h.moves, hv, hb⟩) fun _ => ?_
  refine .get_bind fun b ⟨hb, hf⟩ => ?_
  dsimp only
  split
  · next hg =>
    rw [Bool.or_eq_true, Bool.and_eq_true, Bool.not_eq_true'] at hg
    by_cases hm : command.isMarker = true
    · cases command with
      | turn n =>
        have enter := enterTurn.course cfg (Deed.During.onMarker hm) n.toNat
        refine (enter.alone b trivial).mono_result (fun _ b' ⟨h, he⟩ => ?_)
          fun _ _ ⟨b₁, h, hv⟩ => ⟨b₁, .passed (hb.moves.trans h), hv⟩
        refine ⟨.passed (hb.moves.trans h), fun n' hn => ?_⟩
        cases hn
        exact he
      | _ => cases hm
    · refine (dispatch.spec cfg (eq_false_of_ne_true hm) hf hg).mono_result
        (fun _ b' ⟨b₁, hd, h⟩ => ⟨.played hb hd h, fun n hn => ?_⟩)
        fun _ _ ⟨b₁, hd, b₂, h, hv⟩ => ⟨b₂, .played hb hd h, hv⟩
      rw [hn] at hm
      exact absurd rfl hm
  · next hg =>
    refine .pure fun b' h => ?_
    subst h
    refine ⟨.passed hb.moves, fun n hn => ?_⟩
    rw [hn] at hg
    exact absurd rfl hg

end Play
end BattlePilot
