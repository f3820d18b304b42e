import BattlePilot.Proofs.Play.CommandCourses
import BattlePilot.Proofs.Play.OrderedCourses
import BattlePilot.Battle.Fight

/-! The commands of a script and what plays on after them are orderly. -/

namespace BattlePilot.Play
open Battle

variable (cfg : Settings) {L : Licence}

/-! ### Commands -/

theorem runOps.orderly (slot : UInt8) :
    ∀ ops last, Orderly L .free (runOps cfg slot last ops) fun _ => .free := by
  intro ops last
  fun_induction runOps cfg slot last ops with
  | case1 => exact .quiet rfl (press.quiet cfg (.inl rfl))
  | case2 last skill ally rest ih₁ ih₂ =>
    refine .bind (.quiet rfl (useSkill.quiet cfg skill)) fun _ => ?_
    refine .bind (.quiet rfl (confirm.quiet cfg _ _)) fun asked => ?_
    split
    · refine .bind (.quiet rfl (selectAlly.quiet cfg ally)) fun _ => ?_
      exact .bind (.quiet rfl (idle.quiet _)) fun _ => ih₁
    · refine .bind (.quiet rfl (skipSealed.quiet cfg slot skill)) fun _ => ?_
      exact .bind (.quiet rfl (idle.quiet _)) fun _ => ih₂
  | case3 last skill rest _ ih =>
    refine .bind (.quiet rfl (useSkill.quiet cfg skill)) fun _ => ?_
    refine .bind (.quiet rfl (skipSealed.quiet cfg slot skill)) fun _ => ?_
    exact .bind (.quiet rfl (idle.quiet _)) fun _ => ih
  | case4 last ally rest ih => exact .bind (.quiet rfl (setback.quiet _)) fun _ => ih
  | case5 last d rest ih => exact .bind (.quiet rfl (wait.quiet _)) fun _ => ih
  | case6 =>
    exact .bind (.quiet rfl (press.quiet cfg (.inl rfl))) fun _ => endTurn.orderly cfg

theorem runCharacter.orderly (slot : UInt8) (ops : List SkillOp) :
    Orderly L .free (runCharacter cfg slot ops) fun _ => .free := by
  unfold runCharacter
  split
  · exact .pure _
  · refine .bind (.quiet rfl (doubleClickSlot.quiet (slotLabel_light rfl rfl _) _)) fun _ => ?_
    exact runOps.orderly cfg slot ops 0

theorem runFollowUps.orderly :
    ∀ after, Orderly L .free (runFollowUps cfg after) fun _ => .free
  | [] => .pure _
  | .wait _ :: rest => .bind (.quiet rfl (wait.quiet _)) fun _ => runFollowUps.orderly rest
  | .attack :: _ => endTurn.orderly cfg

theorem runSummon.orderly (slot : UInt8) (after : List FollowUp) :
    Orderly L .free (runSummon cfg slot after) fun _ => .free := by
  unfold runSummon
  split
  · exact .pure _
  · refine .bind (.quiet rfl (press.quiet cfg (.inl rfl))) fun _ => ?_
    refine .bind (.quiet rfl (doubleClickSlot.quiet (slotLabel_light rfl rfl _) _)) fun _ => ?_
    refine .bind (.quiet rfl (confirmSummon.quiet cfg slot)) fun _ => ?_
    refine .bind (.quiet rfl (.discard (findAndClick.quiet cfg (.inl rfl) _))) fun _ => ?_
    exact .bind (.quiet rfl (idle.quiet _)) fun _ => runFollowUps.orderly cfg after

theorem runQuickSummon.orderly (after : List FollowUp) :
    Orderly L .free (runQuickSummon cfg after) fun _ => .free := by
  have rest : Orderly L .free (runFollowUps cfg after) fun _ => .free :=
    runFollowUps.orderly cfg after
  have refused : Orderly L .free (do
      setback .quickSummonNotReady
      runFollowUps cfg after) fun _ => .free := .bind (.quiet rfl (setback.quiet _)) fun _ => rest
  refine .bind (.quiet rfl (look.quiet _)) fun notReady => ?_
  split
  · exact refused
  · refine .bind (.quiet rfl (pressQuickSummon.quiet cfg)) fun pressed => ?_
    split
    · exact rest
    · exact refused

/-- A turn that is submitted or skipped by hand is counted, and then an end is looked for. -/
theorem playByHand.orderly (action : HandAction) :
    Orderly L .free (playByHand cfg action) fun _ => .due := by
  have away : Orderly L .free (Pure.pure () : Play Unit) fun _ => .due :=
    (Orderly.pure _).ready
  have await : Orderly L .struck (do
      discard (waitForAttack cfg resolveTries)
      finishTurn) fun _ => .due :=
    .bind (.apart rfl (.discard (waitForAttack.apart cfg _))) fun _ => finishTurn.orderly
  have back (tries : Nat) : Quiet (· ≠ "attack") (findAndClick cfg "home_back" tries) :=
    findAndClick.quiet cfg (.inr (by decide)) tries
  cases action with
  | attack =>
    refine .bind (findAndClick.orderly cfg _) fun clicked => ?_
    cases clicked with
    | true => exact .bind (.quiet rfl (settleAttack.quiet cfg)) fun _ => finishTurn.orderly
    | false => exact away
  | attackAndBack =>
    refine .bind (findAndClick.orderly cfg _) fun clicked => ?_
    cases clicked with
    | true =>
      refine .bind (.quiet rfl (settleAttack.quiet cfg)) fun _ => ?_
      exact .bind (.quiet rfl (.discard (back _))) fun _ => await
    | false => exact away
  | back =>
    refine .bind (.quiet rfl (back _)) fun clicked => ?_
    split
    · exact await.ready
    · exact away
  | reload =>
    refine .bind (findAndClick.orderly cfg _) fun clicked => ?_
    cases clicked with
    | true =>
      refine .bind (.quiet rfl (.discard (waitVanish.quiet _ _))) fun _ => ?_
      refine .bind (.quiet rfl (reload.quiet cfg _)) fun _ => ?_
      exact .bind (.quiet rfl (resyncAnchor.quiet cfg)) fun _ => finishTurn.orderly
    | false => exact away

theorem act.orderly (command : Command) :
    Orderly L .free (act cfg command) fun _ => .due := by
  have quiet {m : Play Unit} (hm : Quiet (· ≠ "attack") m) :
      Orderly L .free m fun _ => .due := (Orderly.quiet rfl hm).widen fun _ => .inl rfl
  have free {m : Play Unit} (hm : Orderly L .free m fun _ => .free) :
      Orderly L .free m fun _ => .due := hm.widen fun _ => .inl rfl
  cases command with
  | turn n => exact (Orderly.pure _).ready
  | endTurn => exact free (endTurn.orderly cfg)
  | character slot ops => exact free (runCharacter.orderly cfg slot ops)
  | summon slot after => exact free (runSummon.orderly cfg slot after)
  | quickSummon after => exact free (runQuickSummon.orderly cfg after)
  | item item target => exact quiet (useItem.quiet cfg item target)
  | targetEnemy enemy => exact quiet (targetEnemy.quiet cfg enemy)
  | enableAuto kind => exact free (enableAuto.orderly cfg kind)
  | requestBackup viaSocial =>
    cases viaSocial with
    | false => exact quiet (requestBackup.quiet cfg)
    | true => exact quiet (tweetBackup.quiet cfg)
  | wait d => exact quiet (wait.quiet d)
  | byHand action => exact playByHand.orderly cfg action
  | repeatAttack => exact free (Orderly.modifyState fun s => { s with attacksOn := true })
  | exit =>
    have home : Within (Ask (·.strikes = false)) (send .home) := send.asks rfl
    exact free (.bind (.apart rfl (home.mono fun _ _ => .asked)) fun _ => .modifyState _)

/-- A step looks for an end first, and its command is counted right after that. -/
theorem step.orderly {command : Command} (ho : command.isMarker = true → L.opens) :
    Orderly L .free (step cfg command) fun _ => .free := by
  intro base
  refine .bind ((check.looks cfg).mono_start fun _ h => h.ready) fun _ => ?_
  refine .get_bind fun b hb => ?_
  dsimp only
  split
  · by_cases hm : command.isMarker = true
    · cases command with
      | turn n =>
        exact (enterTurn.orderly cfg (ho rfl) n.toNat base).mono_start fun _ h => h ▸ hb.ordered
      | _ => cases hm
    · rw [dispatch_eq cfg (eq_false_of_ne_true hm)]
      obtain ⟨clock, answers, j, ha, hj, hb⟩ := hb
      have counted (turn : Nat) :
          Ordered L base .free (.event (.dispatched turn command) :: b.journal) := by
        rw [hb]
        exact .dispatched ha hj
      refine .turn_bind fun _ h => ?_
      subst h
      refine .bind (R := fun _ b => Ordered L base .free b.journal) ?_ fun _ => ?_
      · refine .modify fun _ h => ?_
        subst h
        exact counted _
      · refine .bind (R := fun _ b => Ordered L base .free b.journal)
          (.modify fun _ h => h) fun _ => ?_
        exact .bind (act.orderly cfg command base) fun _ => check.orderly cfg base
  · exact .pure fun _ h => h ▸ hb.ordered

theorem steps.orderly (ho : L.opens) :
    ∀ commands, Orderly L .free (steps cfg commands) fun _ => .free
  | [] => .pure _
  | _ :: rest => .bind (step.orderly cfg fun _ => ho) fun _ => steps.orderly ho rest

/-! ### Playing on -/

variable (hg : L.givesUp)
include hg

theorem watchAuto.orderly :
    ∀ rounds, Orderly L .free (watchAuto cfg rounds) fun _ => .free
  | 0 => .unfinished hg
  | rounds + 1 => by
    refine .bind (check.orderly cfg).ready fun _ => .bind (pressNext.orderly cfg) fun _ => ?_
    refine .bind (.apart rfl (.discard (wipeCheck.apart cfg))) fun _ => ?_
    exact .bind (.quiet rfl (wait.quiet _)) fun _ => watchAuto.orderly rounds

/-- An attack that is not seen to be resolved is not counted. -/
theorem attackOnce.orderly : Orderly L .free (attackOnce cfg) fun _ => .due := by
  refine .bind (findAndClick.orderly cfg _) fun clicked => ?_
  cases clicked with
  | true =>
    refine .bind (.quiet rfl (settleAttack.quiet cfg)) fun _ => ?_
    refine .bind (.quiet rfl (reloadAfterAttack.quiet cfg)) fun _ => ?_
    refine .bind (.apart rfl (waitForAttack.apart cfg _)) fun resolved => ?_
    split
    · exact finishTurn.orderly
    · exact fun base => .pure fun _ h => h.gaveUp hg
  | false =>
    exact (Orderly.apart rfl (.discard (wipeCheck.apart cfg))).widen fun _ => .inl rfl

omit hg in
theorem wait.due (d : Span) : Orderly L .due (wait d) fun _ => .due := by
  unfold wait
  split
  · exact .pure _
  · refine fun base => .discard (.of_eq fun b hb => ?_)
    refine (perform.spec (.sleep d) b).conseq (fun _ h => h) ?_ ?_
    · rintro answer _ ⟨s, -, rfl⟩
      exact hb.asked rfl fun _ => ⟨d, rfl⟩
    · rintro _ _ ⟨rfl, rfl⟩
      exact .overflow hb

theorem attackOn.orderly :
    ∀ rounds, Orderly L .due (attackOn cfg rounds) fun _ => .free
  | 0 => .unfinished hg
  | rounds + 1 => by
    refine .bind (check.orderly cfg) fun _ => .bind (pressNext.orderly cfg) fun _ => ?_
    refine .bind (attackOnce.orderly cfg hg) fun _ => ?_
    exact .bind (wait.due _) fun _ => attackOn.orderly rounds

omit hg in
theorem handOver.orderly : Orderly L .free (handOver cfg) fun _ => .free := by
  refine .bind (resumeAuto.orderly cfg) fun _ => .get_bind fun b => ?_
  dsimp only
  split
  · split
    · exact .bind (runQuickSummon.orderly cfg []) fun _ => enableAuto.orderly cfg .full
    · exact enableAuto.orderly cfg .full
  · exact .pure _

theorem playOn.orderly (rounds : Nat) :
    Orderly L .free (playOn cfg rounds) fun _ => .free := by
  refine .bind (check.orderly cfg).ready fun _ => ?_
  refine .bind (.apart rfl (.onlyIf ?_)) fun moved => ?_
  · exact Within.apart (findAndClick.quiet cfg (.inr (by decide)) _)
  split
  · exact fun base => ⟨fun b hb => .movedOn hg hb⟩
  · refine .get_bind fun b => ?_
    split
    · exact (attackOn.orderly cfg hg rounds).ready
    · refine .bind (handOver.orderly cfg) fun _ => .get_bind fun b => ?_
      split
      · exact watchAuto.orderly cfg hg rounds
      · exact (attackOn.orderly cfg hg rounds).ready

theorem drive.orderly (ho : L.opens) (rounds : Nat) (commands : List Command) :
    Orderly L .free (drive cfg rounds commands) fun _ => .free :=
  .bind (steps.orderly cfg ho commands) fun _ => playOn.orderly cfg hg rounds

end BattlePilot.Play
