import BattlePilot.Proofs.Play.HittingCourses

/-! Every command hits the slots that it names, and so does what comes after the script. -/

namespace BattlePilot.Play
open Battle

variable {l : Layout} {screen : Screen} (cfg : Settings)

/-! ### Chains and summons -/

theorem idle.hits (pause : Settings.Pause) : Hits l screen (idle pause) := by
  cases pause with
  | none => exact .pure _
  | span d => exact wait.hits d
  | tooLong => exact .halt _

theorem skipSealed.hits (slot skill : UInt8) : Hits l screen (skipSealed cfg slot skill) := by
  apply Hits.bind (confirm.hits cfg _ _)
  intro sealed
  split
  · exact .bind (.setback _) fun _ => press.hits cfg rfl
  · exact .pure _

theorem runOps.hits (slot last : UInt8) (ops : List SkillOp) :
    Hits cfg.layout screen (runOps cfg slot last ops) := by
  fun_induction runOps cfg slot last ops with
  | case1 => exact press.hits cfg rfl
  | case2 last skill ally rest ih₁ ih₂ =>
    apply Hits.bind (useSkill.hits cfg skill)
    intro _
    apply Hits.bind (confirm.hits cfg _ _)
    intro asked
    split
    · apply Hits.bind (selectAlly.hits cfg ally)
      intro _
      exact .bind (idle.hits _) fun _ => ih₁
    · apply Hits.bind (skipSealed.hits cfg slot skill)
      intro _
      exact .bind (idle.hits _) fun _ => ih₂
  | case3 last skill rest _ ih =>
    apply Hits.bind (useSkill.hits cfg skill)
    intro _
    apply Hits.bind (skipSealed.hits cfg slot skill)
    intro _
    exact .bind (idle.hits _) fun _ => ih
  | case4 last ally rest ih => exact .bind (.setback _) fun _ => ih
  | case5 last d rest ih => exact .bind (wait.hits d) fun _ => ih
  | case6 => exact .bind (press.hits cfg rfl) fun _ => endTurn.hits cfg

theorem runCharacter.hits (slot : UInt8) (ops : List SkillOp) :
    Hits cfg.layout screen (runCharacter cfg slot ops) := by
  unfold runCharacter
  split
  · exact .pure _
  · next offset hoffset =>
    exact .bind (doubleClickSlot.hits .character rfl hoffset) fun _ => runOps.hits cfg slot 0 ops

theorem runFollowUps.hits (after : List FollowUp) : Hits l screen (runFollowUps cfg after) := by
  induction after with
  | nil => exact .pure _
  | cons op rest ih =>
    cases op with
    | wait d => exact .bind (wait.hits d) fun _ => ih
    | attack => exact endTurn.hits cfg

theorem confirmSummon.hits (slot : UInt8) : Hits l screen (confirmSummon cfg slot) := by
  apply Hits.bind (confirm.hits cfg _ _)
  intro shown
  split
  · apply Hits.bind (findAndClick.hits cfg rfl _)
    intro clicked
    split
    · exact .pure _
    · exact .bind (.setback _) fun _ => press.hits cfg rfl
  · exact .setback _

theorem runSummon.hits (slot : UInt8) (after : List FollowUp) :
    Hits cfg.layout screen (runSummon cfg slot after) := by
  unfold runSummon
  split
  · exact .pure _
  · next offset hoffset =>
    apply Hits.bind (press.hits cfg rfl)
    intro _
    apply Hits.bind (doubleClickSlot.hits .summon rfl hoffset)
    intro _
    apply Hits.bind (confirmSummon.hits cfg slot)
    intro _
    apply Hits.bind (findAndClick.hits cfg rfl _).discard
    intro _
    exact .bind (idle.hits _) fun _ => runFollowUps.hits cfg after

theorem runQuickSummon.hits (after : List FollowUp) :
    Hits l screen (runQuickSummon cfg after) := by
  have rest : Hits l screen (runFollowUps cfg after) := runFollowUps.hits cfg after
  have refused : Hits l screen (do
      setback .quickSummonNotReady
      runFollowUps cfg after) := .bind (.setback _) fun _ => rest
  have pressed : Hits l screen (pressQuickSummon cfg) :=
    .either (findAndClick.hits cfg rfl _) (findAndClick.hits cfg rfl _)
  apply Hits.bind (look.hits _)
  intro notReady
  split
  · exact refused
  apply Hits.bind pressed
  intro ready
  split
  · exact rest
  · exact refused

/-! ### Items, backup and targets -/

theorem keyword_namesNoSlot (item : Item) : namesSlot item.keyword = false := by
  cases item <;> decide

theorem pickItem.hits (item : Item) : Hits l screen (pickItem cfg item) := by
  cases item with
  | bluePotion | supportPotion =>
    apply Hits.bind (.asks (lookAll.asks nofun))
    intro found
    split
    · exact click.hits (keyword_namesNoSlot _) _
    · exact .pure _
  | _ => exact press.hits cfg (keyword_namesNoSlot _)

theorem applyItem.hits (item : Item) (target : Option UInt8) :
    Hits cfg.layout screen (applyItem cfg item target) := by
  cases item with
  | greenPotion | clarityHerb =>
    cases target with
    | none => exact .pure _
    | some slot =>
      unfold applyItem
      dsimp only
      split
      · next offset hoffset => exact doubleClickSlot.hits .character rfl hoffset
      · exact .pure _
  | _ => exact press.hits cfg rfl

theorem useItem.hits (item : Item) (target : Option UInt8) :
    Hits cfg.layout screen (useItem cfg item target) := by
  apply Hits.bind (press.hits cfg rfl)
  intro _
  apply Hits.bind (pickItem.hits cfg item)
  intro _
  apply Hits.bind (waitVanish.hits _ _)
  intro gone
  split
  · apply Hits.bind (applyItem.hits cfg item target)
    intro _
    apply Hits.bind (wait.hits _)
    intro _
    apply Hits.bind (confirm.hits cfg _ _)
    intro refused
    split
    · exact .bind (.setback _) fun _ => press.hits cfg rfl
    · exact .pure _
  · exact .bind (.setback _) fun _ => press.hits cfg rfl

theorem seekBackup.hits (anchor : Point) (tries : Nat) :
    Hits l screen (seekBackup cfg anchor tries) := by
  induction tries with
  | zero => exact .pure _
  | succ tries ih =>
    apply Hits.bind (findAndClick.hits cfg rfl _)
    intro clicked
    split
    · exact .pure _
    · exact .bind (scroll.hits _ _) fun _ => ih

theorem concludeBackup.hits (success : String) (anchor : Point) :
    Hits l screen (concludeBackup cfg success anchor) := by
  apply Hits.bind (confirm.hits cfg _ _)
  intro granted
  split
  · exact .bind (press.hits cfg rfl) fun _ => scroll.hits _ _
  · apply Hits.bind (.setback _)
    intro _
    exact .bind (press.hits cfg rfl) fun _ => scroll.hits _ _

theorem requestBackup.hits : Hits l screen (requestBackup cfg) := by
  apply Hits.get_bind
  intro b
  apply Hits.bind (seekBackup.hits cfg _ _)
  intro found
  split
  · have rest : Hits l screen (do
        wait (.ofSeconds 1)
        concludeBackup cfg "request_backup_success" b.anchor) :=
      .bind (wait.hits _) fun _ => concludeBackup.hits cfg _ _
    apply Hits.bind (wait.hits _)
    intro _
    apply Hits.bind (find.hits cfg _ _)
    intro cancel
    cases cancel with
    | some cancel =>
      apply Hits.bind (beside.hits _ _)
      intro _
      exact .bind (click.hits rfl _) fun _ => rest
    | none => exact rest
  · exact .bind (.setback _) fun _ => scroll.hits _ _

theorem tweetBackup.hits : Hits l screen (tweetBackup cfg) := by
  apply Hits.get_bind
  intro b
  apply Hits.bind (scroll.hits _ _)
  intro _
  apply Hits.bind (press.hits cfg rfl)
  intro _
  apply Hits.bind (wait.hits _)
  intro _
  apply Hits.bind (press.hits cfg rfl)
  intro _
  apply Hits.bind (press.hits cfg rfl)
  intro _
  exact .bind (wait.hits _) fun _ => concludeBackup.hits cfg _ _

theorem targetEnemy.hits (enemy : UInt8) : Hits cfg.layout screen (targetEnemy cfg enemy) := by
  unfold targetEnemy
  split
  · exact .pure _
  · next offset hoffset =>
    exact .bind (clickSlot.hits .enemy rfl hoffset) fun _ => press.hits cfg rfl

/-! ### Steps -/

theorem playByHand.hits (action : HandAction) : Hits l screen (playByHand cfg action) := by
  have await : Hits l screen (do
      discard (waitForAttack cfg resolveTries)
      finishTurn) :=
    .bind (waitForAttack.hits cfg _).discard fun _ => finishTurn.hits
  cases action with
  | attack =>
    apply Hits.bind (findAndClick.hits cfg rfl _)
    intro clicked
    split
    · exact .bind (settleAttack.hits cfg) fun _ => finishTurn.hits
    · exact .pure _
  | attackAndBack =>
    apply Hits.bind (findAndClick.hits cfg rfl _)
    intro clicked
    split
    · apply Hits.bind (settleAttack.hits cfg)
      intro _
      exact .bind (press.hits cfg rfl) fun _ => await
    · exact .pure _
  | back =>
    apply Hits.bind (findAndClick.hits cfg rfl _)
    intro clicked
    split
    · exact await
    · exact .pure _
  | reload =>
    apply Hits.bind (findAndClick.hits cfg rfl _)
    intro clicked
    split
    · apply Hits.bind (waitVanish.hits _ _).discard
      intro _
      apply Hits.bind (reload.keeps cfg Anchored.timeless.toSteady rfl _)
      intro _
      apply Hits.bind (resyncAnchor.keeps cfg Anchored.timeless.toSteady rfl)
      intro _
      exact finishTurn.hits
    · exact .pure _

theorem act.hits (command : Command) : Hits cfg.layout screen (act cfg command) := by
  cases command with
  | turn => exact .pure _
  | endTurn => exact endTurn.hits cfg
  | character slot ops => exact runCharacter.hits cfg slot ops
  | summon slot after => exact runSummon.hits cfg slot after
  | quickSummon after => exact runQuickSummon.hits cfg after
  | item item target => exact useItem.hits cfg item target
  | targetEnemy enemy => exact targetEnemy.hits cfg enemy
  | enableAuto kind => exact enableAuto.hits cfg kind
  | requestBackup viaSocial =>
    cases viaSocial with
    | false => exact requestBackup.hits cfg
    | true => exact tweetBackup.hits cfg
  | wait d => exact wait.hits d
  | byHand action => exact playByHand.hits cfg action
  | repeatAttack => exact Hits.modifyState fun s => { s with attacksOn := true }
  | exit => exact .bind home.hits fun _ => .modifyState _

theorem dispatch.hits (command : Command) : Hits cfg.layout screen (dispatch cfg command) := by
  cases hm : command.isMarker with
  | true =>
    cases command with
    | turn number => exact enterTurn.keeps cfg Anchored.timeless turnNames_noSlot _
    | _ => cases hm
  | false =>
    have counted : Hits cfg.layout screen (modify fun b : Battle =>
        { b with dispatched := b.dispatched + 1 } : Play Unit) := .modify fun _ => ⟨rfl, rfl, rfl⟩
    rw [dispatch_eq cfg hm]
    apply Hits.turn_bind
    intro turn
    apply Hits.bind (.record _)
    intro _
    apply Hits.bind counted
    intro _
    exact .bind (act.hits cfg command) fun _ => check.hits cfg

theorem step.hits (command : Command) : Hits cfg.layout screen (step cfg command) := by
  apply Hits.bind (check.hits cfg)
  intro _
  apply Hits.get_bind
  intro b
  dsimp only
  split
  · exact dispatch.hits cfg command
  · exact .pure _

theorem steps.hits (commands : List Command) : Hits cfg.layout screen (steps cfg commands) := by
  induction commands with
  | nil => exact .pure _
  | cons command rest ih => exact .bind (step.hits cfg command) fun _ => ih

/-! ### Playing on -/

theorem attackOnce.hits : Hits l screen (attackOnce cfg) := by
  apply Hits.bind (findAndClick.hits cfg rfl _)
  intro clicked
  split
  · apply Hits.bind (settleAttack.hits cfg)
    intro _
    apply Hits.bind (reloadAfterAttack.keeps cfg Anchored.timeless.toSteady rfl)
    intro _
    apply Hits.bind (waitForAttack.hits cfg _)
    intro resolved
    split
    · exact finishTurn.hits
    · exact .pure _
  · exact (wipeCheck.hits cfg).discard

theorem keepOn.hits {round : Play Unit} (hround : Hits l screen round) (rounds : Nat) :
    Hits l screen (keepOn cfg round rounds) := by
  induction rounds with
  | zero => exact .halt _
  | succ rounds ih =>
    apply Hits.bind (check.hits cfg)
    intro _
    apply Hits.bind (pressNext.keeps cfg Anchored.timeless.toSteady rfl)
    intro _
    apply Hits.bind hround
    intro _
    exact .bind (wait.hits _) fun _ => ih

theorem handOver.hits : Hits l screen (handOver cfg) := by
  apply Hits.bind (resumeAuto.keeps cfg Anchored.timeless.toSteady
    (autoNames_of_turnNames turnNames_noSlot))
  intro _
  apply Hits.get_bind
  intro b
  dsimp only
  split
  · split
    · exact .bind (runQuickSummon.hits cfg _) fun _ => enableAuto.hits cfg _
    · exact enableAuto.hits cfg _
  · exact .pure _

theorem playOn.hits (rounds : Nat) : Hits l screen (playOn cfg rounds) := by
  have attack : Hits l screen (attackOn cfg rounds) := by
    rw [attackOn_eq]
    exact keepOn.hits cfg (attackOnce.hits cfg) rounds
  have watch : Hits l screen (watchAuto cfg rounds) := by
    rw [watchAuto_eq]
    exact keepOn.hits cfg (wipeCheck.hits cfg).discard rounds
  apply Hits.bind (check.hits cfg)
  intro _
  apply Hits.bind (.onlyIf (findAndClick.hits cfg rfl _))
  intro moved
  split
  · exact conclude.keeps Anchored.timeless.toSteady _
  apply Hits.get_bind
  intro b
  split
  · exact attack
  apply Hits.bind (handOver.hits cfg)
  intro _
  apply Hits.get_bind
  intro b
  split
  · exact watch
  · exact attack

/-- Whatever comes of a battle, it has hit the slots that it clicked. -/
theorem drive.hits (rounds : Nat) (commands : List Command) :
    Hits cfg.layout screen (drive cfg rounds commands) :=
  .bind (steps.hits cfg commands) fun _ => playOn.hits cfg rounds

/-! ### Finding the anchor -/

/-- The anchor is where the attack button is, once it has been found. -/
theorem findAnchor.hits (l : Layout) (screen : Screen) :
    Triple (Charted l screen) (findAnchor cfg)
      (fun found b => if found then b.Anchored l screen else b.Charted l screen)
      fun _ => Charted l screen := by
  have popup : Triple (Charted l screen) (press cfg "arcarum_popup") (fun _ => Charted l screen)
      fun _ => Charted l screen :=
    .discard (findAndClick.asksOnSlot cfg rfl _).charted
  have aim {f : Option Point → Play Bool} (hsome : ∀ p, f (some p) = (do
        modify fun b => { b with anchor := p }
        return true)) (hnone : f none = (do return false)) :
      Triple (Charted l screen) (find cfg "attack" cfg.retry.anchorTries.toNat >>= f)
        (fun found b => if found then b.Anchored l screen else b.Charted l screen)
        fun _ => Charted l screen := by
    apply Triple.bind (find.charts cfg "attack" _)
    intro found
    apply Triple.of_fact
    intro hfound
    cases found with
    | some p =>
      rw [hsome]
      apply Triple.bind (R := fun _ => Anchored l screen)
      · exact .modify fun b hb => { hb with anchor := hfound p rfl }
      · exact fun _ => .pure fun _ hb => hb
    | none =>
      rw [hnone]
      exact .pure fun _ hb => hb
  unfold findAnchor
  dsimp only
  split
  · exact .bind popup fun _ => aim (fun _ => rfl) rfl
  · exact aim (fun _ => rfl) rfl

end BattlePilot.Play
