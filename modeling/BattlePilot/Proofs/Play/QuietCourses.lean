import BattlePilot.Proofs.Play.Aside

/-! The quiet courses: recovering from a stalled attack, the controls of automation, dialogs,
skills, summons, items and backup. Those that click a weighty label say which. -/

namespace BattlePilot.Play
open Battle

variable {W : String → Prop} (cfg : Settings)

/-! ### After an attack -/

theorem reload.mends (reason : ReloadReason) : Within Mend (reload cfg reason) := by
  have rest : Within Mend (wait cfg.retry.reloadWait) := (wait.asks trivial).mono fun _ _ => .ask
  have press : Within Mend (findAndClick cfg "reload" usualTries) :=
    (findAndClick.asks cfg _).mono fun _ _ h => .ask (h.mono fun _ => ScreenOp.Presses.mends)
  refine .bind press fun clicked => ?_
  split
  · refine .of_eq fun b => .turn_bind fun _ h => ?_
    subst h
    refine .bind (.modify fun _ h => ?_) fun _ => rest _
    subst h
    exact .single (.reloaded reason)
  · exact rest

/-- The anchor only moves to where the attack button has just been found. -/
theorem find.aims (tries : Nat) {f : Option Point → Play α} {rest : Play α}
    (hsome : ∀ p, f (some p) = (do
      modify fun b => { b with anchor := p }
      rest)) (hrest : Within Mend rest) (hnone : Within Mend (f none)) :
    Within Mend (find cfg "attack" tries >>= f) := by
  intro b₀
  have look : Within Mend (find cfg "attack" tries) :=
    (find.asks cfg trivial (fun _ => trivial) _).mono fun _ _ => .ask
  refine .bind ((look b₀).and (find.found cfg "attack" tries)) fun found => ?_
  cases found with
  | some p =>
    rw [hsome]
    refine .bind (.modify fun b ⟨hb, hp⟩ => ?_) fun _ => hrest b₀
    obtain ⟨clock, hclock⟩ := hp p rfl
    exact hb.tail (.aim hclock)
  | none => exact (hnone b₀).mono_start fun _ h => h.1

theorem resyncAnchor.mends : Within Mend (resyncAnchor cfg) :=
  find.aims cfg 10 (fun _ => (bind_pure _).symm) (.pure _) (.step fun _ => .lost)

theorem settleAttack.mends : Within Mend (settleAttack cfg) := by
  have look : Within Mend (find cfg "combat_cancel" 3) :=
    (find.asks cfg trivial (fun _ => trivial) _).mono fun _ _ => .ask
  have stalls : Within Mend (stalls cfg cfg.retry.maxStallWaits.toNat) :=
    (stalls.asks cfg (fun _ => trivial) (fun _ => trivial) _).mono fun _ _ => .ask
  refine .bind look fun found => ?_
  split
  · refine .bind stalls fun stalled => ?_
    split
    · exact .bind (reload.mends cfg _) fun _ => resyncAnchor.mends cfg
    · exact .pure _
  · exact .pure _

theorem reloadAfterAttack.mends : Within Mend (reloadAfterAttack cfg) := by
  unfold reloadAfterAttack
  split
  · exact reload.mends cfg _
  · exact .pure _

theorem Within.mended {m : Play α} (hm : Within Mend m) : Quiet W m :=
  hm.mono fun _ _ => Mend.aside

theorem reload.quiet (reason : ReloadReason) : Quiet W (reload cfg reason) :=
  (reload.mends cfg reason).mended

theorem resyncAnchor.quiet : Quiet W (resyncAnchor cfg) := (resyncAnchor.mends cfg).mended

theorem settleAttack.quiet : Quiet W (settleAttack cfg) := (settleAttack.mends cfg).mended

theorem reloadAfterAttack.quiet : Quiet W (reloadAfterAttack cfg) :=
  (reloadAfterAttack.mends cfg).mended

theorem submitTurn.quiet (h : W "attack") : Quiet W (submitTurn cfg) := by
  refine .bind (.discard (findAndClick.quiet cfg (.inr h) _)) fun _ => ?_
  exact .bind (settleAttack.quiet cfg) fun _ => reloadAfterAttack.quiet cfg

theorem pressNext.quiet (h : W "next") : Quiet W (pressNext cfg) := by
  refine .bind (findAndClick.quiet cfg (.inr h) _) fun clicked => ?_
  split
  · exact wait.quiet _
  · exact .pure _

/-! ### Dialogs and the sign of a fallen party -/

theorem dismissDialogs.quiet : Quiet W dismissDialogs := by
  have close (position : Point) : Quiet W (do
      send (.click "dialog" (← beside position ⟨180, -51⟩))) :=
    .bind (beside.quiet _ _) fun _ => click.quiet (.inl rfl) _
  refine .bind (look.quiet _) fun found => ?_
  cases found with
  | some position => exact .bind_option (.pure _) close (.pure _)
  | none => exact .bind_option (look.quiet _) close (.pure _)

theorem seesTurn.asks {A : ScreenOp → Prop} (h : ∀ name, A (.find name)) :
    Within (Ask A) seesTurn := by
  refine .bind (look.asks (h _)) fun found => ?_
  split
  · exact .pure _
  · exact .bind (look.asks (h _)) fun _ => .pure _

theorem seesTurn.quiet : Quiet W seesTurn := (seesTurn.asks fun _ => trivial).quiet

theorem clickWipe.light : ∀ indicator, Within (Ask (ScreenOp.Light W)) (clickWipe indicator)
  | some _ => send.asks (.inl rfl)
  | none => .pure _

theorem clickWipe.quiet (indicator : Option Point) : Quiet W (clickWipe indicator) :=
  (clickWipe.light indicator).quiet

/-- Leaving the battle only asks things: what may be asked aside, and to go home. -/
theorem leaveFallen.asks (h : W "retreat_confirmation") (indicator : Option Point) :
    Within (Ask fun op => op.Light W ∨ op = .input .home) (leaveFallen cfg indicator) := by
  have light {α : Type} {m : Play α} (hm : Within (Ask (ScreenOp.Light W)) m) :
      Within (Ask fun op => op.Light W ∨ op = .input .home) m :=
    hm.mono fun _ _ ha => ha.mono fun _ => .inl
  have ask (name : String) : Within (Ask (ScreenOp.Light W)) (confirm cfg name usualTries) :=
    confirm.asks cfg trivial (fun _ => trivial) _
  have click := clickWipe.light (W := W) indicator
  refine .bind (.onlyIf (light (ask "continue"))) fun offered => ?_
  split
  · refine light (.bind click fun _ => .bind (press.light cfg (.inl rfl)) fun _ => ?_)
    exact .bind (press.light cfg (.inr h)) fun _ => .pure _
  · split
    · exact .bind (send.asks (.inr rfl)) fun _ => .pure _
    · refine light (.bind (.onlyIf (ask "salute_participants")) fun offered => ?_)
      split
      · refine .bind click fun _ => .bind (press.light cfg (.inl rfl)) fun _ => ?_
        refine .bind (press.light cfg (.inl rfl)) fun _ => ?_
        refine .bind (press.light cfg (.inl rfl)) fun _ => ?_
        exact .bind (press.light cfg (.inl rfl)) fun _ => .pure _
      · exact .pure _

/-! ### The controls of automation -/

theorem trySemiAfterAttack.asks (h : W "attack") :
    Within (Ask (ScreenOp.Light W)) (trySemiAfterAttack cfg) :=
  .bind (press.light cfg (.inr h)) fun _ => findAndClick.light cfg (.inl rfl) _

theorem tryFull.asks (h : W "attack") : Within (Ask (ScreenOp.Light W)) (tryFull cfg) := by
  refine .bind (findAndClick.light cfg (.inl rfl) _) fun clicked => ?_
  split
  · exact .pure _
  · refine .bind (trySemiAfterAttack.asks cfg h) fun clicked => ?_
    split <;> exact .pure _

theorem trySemi.asks (h : W "attack") : Within (Ask (ScreenOp.Light W)) (trySemi cfg) := by
  refine .bind (find.asks cfg trivial (fun _ => trivial) _) fun found => ?_
  split
  · exact .pure _
  · refine .bind (trySemiAfterAttack.asks cfg h) fun clicked => ?_
    split
    · exact .pure _
    · refine .bind (findAndClick.light cfg (.inl rfl) _) fun clicked => ?_
      split <;> exact .pure _

theorem tryFull.quiet (h : W "attack") : Quiet W (tryFull cfg) := (tryFull.asks cfg h).quiet

theorem trySemi.quiet (h : W "attack") : Quiet W (trySemi cfg) := (trySemi.asks cfg h).quiet

/-! ### Skills and summons -/

theorem idle.quiet : ∀ pause, Quiet W (idle pause)
  | .none => .pure _
  | .span d => wait.quiet d
  | .tooLong => .overflow

theorem useSkill.quiet (skill : UInt8) : Quiet W (useSkill cfg skill) := by
  unfold useSkill
  split
  · exact clickSlot.quiet (slotLabel_light rfl rfl _) _
  · exact .pure _

theorem selectAlly.quiet (ally : UInt8) : Quiet W (selectAlly cfg ally) := by
  unfold selectAlly
  split
  · exact .pure _
  · refine .bind (find.quiet cfg _ _) fun found => ?_
    split
    · exact .bind (beside.quiet _ _) fun _ =>
        click.quiet (.inl (slotLabel_light rfl rfl _)) _
    · exact .pure _

theorem skipSealed.quiet (slot skill : UInt8) : Quiet W (skipSealed cfg slot skill) := by
  refine .bind (confirm.quiet cfg _ _) fun seen => ?_
  split
  · exact .bind (setback.quiet _) fun _ => press.quiet cfg (.inl rfl)
  · exact .pure _

theorem confirmSummon.quiet (slot : UInt8) : Quiet W (confirmSummon cfg slot) := by
  refine .bind (confirm.quiet cfg _ _) fun seen => ?_
  split
  · refine .bind (findAndClick.quiet cfg (.inl rfl) _) fun clicked => ?_
    split
    · exact .pure _
    · exact .bind (setback.quiet _) fun _ => press.quiet cfg (.inl rfl)
  · exact setback.quiet _

theorem pressQuickSummon.quiet : Quiet W (pressQuickSummon cfg) :=
  .either (findAndClick.quiet cfg (.inl rfl) _)
    (findAndClick.quiet cfg (.inl rfl) _)

theorem targetEnemy.quiet (enemy : UInt8) : Quiet W (targetEnemy cfg enemy) := by
  unfold targetEnemy
  split
  · exact .pure _
  · exact .bind (clickSlot.quiet (slotLabel_light rfl rfl _) _) fun _ =>
      press.quiet cfg (.inl rfl)

/-! ### Items -/

theorem keyword_light (item : Item) : isWeighty item.keyword = false := by
  cases item <;> rfl

theorem pickItem.quiet (item : Item) : Quiet W (pickItem cfg item) := by
  cases item with
  | bluePotion | supportPotion =>
    refine .bind (lookAll.quiet _) fun found => ?_
    split
    · exact click.quiet (.inl (keyword_light _)) _
    · exact .pure _
  | _ => exact press.quiet cfg (.inl (keyword_light _))

theorem applyItem.quiet (item : Item) (target : Option UInt8) :
    Quiet W (applyItem cfg item target) := by
  unfold applyItem
  split
  · split
    · exact .pure _
    · split
      · exact doubleClickSlot.quiet (slotLabel_light rfl rfl _) _
      · exact .pure _
  · split
    · exact .pure _
    · split
      · exact doubleClickSlot.quiet (slotLabel_light rfl rfl _) _
      · exact .pure _
  · exact press.quiet cfg (.inl rfl)
  · exact press.quiet cfg (.inl rfl)

theorem useItem.quiet (item : Item) (target : Option UInt8) :
    Quiet W (useItem cfg item target) := by
  refine .bind (press.quiet cfg (.inl rfl)) fun _ => ?_
  refine .bind (pickItem.quiet cfg item) fun _ => .bind (waitVanish.quiet _ _) fun gone => ?_
  split
  · refine .bind (applyItem.quiet cfg item target) fun _ => .bind (wait.quiet _) fun _ => ?_
    refine .bind (confirm.quiet cfg _ _) fun seen => ?_
    split
    · exact .bind (setback.quiet _) fun _ => press.quiet cfg (.inl rfl)
    · exact .pure _
  · exact .bind (setback.quiet _) fun _ => press.quiet cfg (.inl rfl)

/-! ### Backup -/

theorem seekBackup.quiet (anchor : Point) : ∀ tries, Quiet W (seekBackup cfg anchor tries)
  | 0 => .pure _
  | tries + 1 => by
    refine .bind (findAndClick.quiet cfg (.inl rfl) _) fun clicked => ?_
    split
    · exact .pure _
    · exact .bind (scroll.quiet _ _) fun _ => seekBackup.quiet anchor tries

theorem concludeBackup.quiet (success : String) (anchor : Point) :
    Quiet W (concludeBackup cfg success anchor) := by
  refine .bind (confirm.quiet cfg _ _) fun seen => ?_
  split
  · exact .bind (press.quiet cfg (.inl rfl)) fun _ => scroll.quiet _ _
  · refine .bind (setback.quiet _) fun _ => ?_
    exact .bind (press.quiet cfg (.inl rfl)) fun _ => scroll.quiet _ _

theorem requestBackup.quiet : Quiet W (requestBackup cfg) := by
  refine .get_bind fun b => .bind (seekBackup.quiet cfg _ _) fun found => ?_
  split
  · have rest : Quiet W (do
        wait (.ofSeconds 1)
        concludeBackup cfg "request_backup_success" b.anchor) :=
      .bind (wait.quiet _) fun _ => concludeBackup.quiet cfg _ _
    refine .bind (wait.quiet _) fun _ => .bind (find.quiet cfg _ _) fun cancel => ?_
    cases cancel with
    | some cancel =>
      refine .bind (beside.quiet _ _) fun _ => ?_
      exact .bind (click.quiet (.inl rfl) _) fun _ => rest
    | none => exact rest
  · exact .bind (setback.quiet _) fun _ => scroll.quiet _ _

theorem tweetBackup.quiet : Quiet W (tweetBackup cfg) := by
  refine .get_bind fun b => .bind (scroll.quiet _ _) fun _ => ?_
  refine .bind (press.quiet cfg (.inl rfl)) fun _ => .bind (wait.quiet _) fun _ => ?_
  refine .bind (press.quiet cfg (.inl rfl)) fun _ => ?_
  refine .bind (press.quiet cfg (.inl rfl)) fun _ => .bind (wait.quiet _) fun _ => ?_
  exact concludeBackup.quiet cfg _ _

end BattlePilot.Play
