import BattlePilot.Proofs.Play.Finding
import BattlePilot.Proofs.Play.Keeping

/-! What the courses of a turn look for and click. They keep every property that is steady for these
names, whatever comes of them. -/

namespace BattlePilot.Play
open Battle

/-! ### Names -/

def dialogNames : List String := ["dialog_lyria", "dialog_vyrn", "dialog"]

/-- Names in the look for an end of the battle. -/
def endNames : List String :=
  ["no_loot", "battle_concluded", "exp_gained", "loot_collected", "reload"]

/-- Names in looking after a fallen party. -/
def wipeNames : List String :=
  ["party_wipe_indicator", "salute_participants", "continue", "cancel", "retreat_confirmation",
    "salute", "ok", "leave"]

/-- Names in recovering from an attack. -/
def recoveryNames : List String := ["combat_cancel", "reload", "attack"]

def autoNames : List String :=
  ["attack", "semi_auto", "full_auto", "semi_auto_enabled", "full_auto_enabled"]

/-- Names in bringing turns to their end. -/
def turnNames : List String :=
  dialogNames ++ endNames ++ wipeNames ++ recoveryNames ++ autoNames ++ ["next"]

section

variable {N : String → Prop}

theorem dialogNames_of_turnNames (h : ∀ name ∈ turnNames, N name) : ∀ name ∈ dialogNames, N name :=
  fun name hname => h name (by simp [turnNames, hname])

theorem endNames_of_turnNames (h : ∀ name ∈ turnNames, N name) : ∀ name ∈ endNames, N name :=
  fun name hname => h name (by simp [turnNames, hname])

theorem wipeNames_of_turnNames (h : ∀ name ∈ turnNames, N name) : ∀ name ∈ wipeNames, N name :=
  fun name hname => h name (by simp [turnNames, hname])

theorem recoveryNames_of_turnNames (h : ∀ name ∈ turnNames, N name) :
    ∀ name ∈ recoveryNames, N name :=
  fun name hname => h name (by simp [turnNames, hname])

theorem autoNames_of_turnNames (h : ∀ name ∈ turnNames, N name) : ∀ name ∈ autoNames, N name :=
  fun name hname => h name (by simp [turnNames, hname])

end

variable {N : String → Prop} {P : Battle → Prop} (cfg : Settings)

/-! ### Looking, waiting and clicking -/

theorem wait.keeps (hP : Steady N P) (d : Span) : Keeps P (wait d) :=
  (wait.asks (ScreenOp.concerns_of_none rfl)).keptBy hP

theorem look.keeps (hP : Steady N P) {name : String} (h : N name) : Keeps P (look name) :=
  (look.asks (ScreenOp.concerns_of_some rfl h)).keptBy hP

theorem sees.keeps (hP : Steady N P) {name : String} (h : N name) : Keeps P (sees name) :=
  (sees.asks (ScreenOp.concerns_of_some rfl h)).keptBy hP

theorem click.keeps (hP : Steady N P) {label : String} (h : N label) (position : Point) :
    Keeps P (send (.click label position)) :=
  (send.asks (ScreenOp.concerns_of_some rfl h)).keptBy hP

theorem home.keeps (hP : Steady N P) : Keeps P (send .home) :=
  (send.asks (ScreenOp.concerns_of_none rfl)).keptBy hP

theorem find.keeps (hP : Steady N P) {name : String} (h : N name) (tries : Nat) :
    Keeps P (find cfg name tries) :=
  (find.asks cfg (ScreenOp.concerns_of_some rfl h)
    (fun _ => ScreenOp.concerns_of_none rfl) _).keptBy hP

theorem confirm.keeps (hP : Steady N P) {name : String} (h : N name) (tries : Nat) :
    Keeps P (confirm cfg name tries) :=
  (confirm.asks cfg (ScreenOp.concerns_of_some rfl h)
    (fun _ => ScreenOp.concerns_of_none rfl) _).keptBy hP

theorem findAndClick.keeps (hP : Steady N P) {name : String} (h : N name) (tries : Nat) :
    Keeps P (findAndClick cfg name tries) :=
  ((findAndClick.asks cfg tries).mono fun _ _ ha => ha.mono fun _ hop => hop.concerns h).keptBy hP

theorem press.keeps (hP : Steady N P) {name : String} (h : N name) : Keeps P (press cfg name) :=
  .discard (findAndClick.keeps cfg hP h _)

theorem beside.keeps (position : Point) (offset : Offset) : Keeps P (beside position offset) := by
  unfold beside
  split
  · exact .pure _
  · exact .halt _

theorem dismissDialogs.keeps (hP : Steady N P) (hN : ∀ name ∈ dialogNames, N name) :
    Keeps P dismissDialogs := by
  have close (position : Point) : Keeps P (do
      send (.click "dialog" (← beside position ⟨180, -51⟩))) :=
    .bind (beside.keeps _ _) fun _ => click.keeps hP (hN _ (by decide)) _
  apply Keeps.bind (look.keeps hP (hN _ (by decide)))
  intro dialog
  cases dialog with
  | some position => exact .bind_option (.pure _) close (.pure _)
  | none => exact .bind_option (look.keeps hP (hN _ (by decide))) close (.pure _)

theorem seesTurn.keeps (hP : Steady N P) (hattack : N "attack") (hnext : N "next") :
    Keeps P seesTurn := by
  apply Keeps.bind (look.keeps hP hattack)
  intro found
  split
  · exact .pure _
  · exact .bind (look.keeps hP hnext) fun _ => .pure _

/-! ### The end of a battle -/

theorem conclude.keeps (hP : Steady N P) (outcome : Outcome) :
    Keeps P (conclude outcome : Play α) :=
  .bind (modifyState.keeps hP fun _ => rfl) fun _ => .halt _

theorem check.keeps (hP : Steady N P) (hN : ∀ name ∈ endNames, N name) : Keeps P (check cfg) := by
  have classify : Keeps P (classify cfg) := by
    apply Keeps.get_bind
    intro b
    split
    · exact .pure _
    split
    · exact .pure _
    apply Keeps.bind (sees.keeps hP (hN _ (by decide)))
    intro seen
    split
    · exact .pure _
    apply Keeps.bind (sees.keeps hP (hN _ (by decide)))
    intro seen
    split
    · exact .pure _
    apply Keeps.bind (sees.keeps hP (hN _ (by decide)))
    intro seen
    split
    · exact .pure _
    apply Keeps.bind (sees.keeps hP (hN _ (by decide)))
    intro seen
    split <;> exact .pure _
  apply Keeps.bind classify
  intro found
  cases found with
  | none => exact .pure _
  | some outcome =>
    dsimp only
    split
    · exact .bind (press.keeps cfg hP (hN _ (by decide))) fun _ => conclude.keeps hP _
    · exact conclude.keeps hP _

theorem clickWipe.keeps (hP : Steady N P) (hN : ∀ name ∈ wipeNames, N name)
    (indicator : Option Point) : Keeps P (clickWipe indicator) := by
  cases indicator with
  | some position => exact click.keeps hP (hN _ (by decide)) position
  | none => exact .pure _

theorem leaveFallen.keeps (hP : Steady N P) (hN : ∀ name ∈ wipeNames, N name)
    (indicator : Option Point) : Keeps P (leaveFallen cfg indicator) := by
  apply Keeps.bind (.onlyIf (confirm.keeps cfg hP (hN _ (by decide)) _))
  intro offered
  split
  · apply Keeps.bind (clickWipe.keeps hP hN indicator)
    intro _
    apply Keeps.bind (press.keeps cfg hP (hN _ (by decide)))
    intro _
    exact .bind (press.keeps cfg hP (hN _ (by decide))) fun _ => .pure _
  split
  · exact .bind (home.keeps hP) fun _ => .pure _
  apply Keeps.bind (.onlyIf (confirm.keeps cfg hP (hN _ (by decide)) _))
  intro saluted
  split
  · apply Keeps.bind (clickWipe.keeps hP hN indicator)
    intro _
    apply Keeps.bind (press.keeps cfg hP (hN _ (by decide)))
    intro _
    apply Keeps.bind (press.keeps cfg hP (hN _ (by decide)))
    intro _
    apply Keeps.bind (press.keeps cfg hP (hN _ (by decide)))
    intro _
    exact .bind (press.keeps cfg hP (hN _ (by decide))) fun _ => .pure _
  · exact .pure _

theorem wipeCheck.keeps (hP : Steady N P) (hN : ∀ name ∈ wipeNames, N name) :
    Keeps P (wipeCheck cfg) := by
  apply Keeps.bind (look.keeps hP (hN _ (by decide)))
  intro indicator
  apply Keeps.bind (.either (.pure _) (sees.keeps hP (hN _ (by decide))))
  intro fallen
  split
  · apply Keeps.bind (leaveFallen.keeps cfg hP hN indicator)
    intro exit
    cases exit with
    | some response =>
      refine .bind (modifyState.keeps hP fun _ => rfl) fun _ => ?_
      exact .turn_bind fun _ => .bind (record.keeps hP nofun) fun _ => .pure _
    | none => exact .pure _
  · exact .pure _

/-! ### After an attack -/

theorem reload.keeps (hP : Steady N P) (h : N "reload") (reason : ReloadReason) :
    Keeps P (reload cfg reason) := by
  apply Keeps.bind (findAndClick.keeps cfg hP h _)
  intro clicked
  dsimp only
  split
  · apply Keeps.turn_bind
    intro turn
    exact .bind (record.keeps hP nofun) fun _ => wait.keeps hP _
  · exact wait.keeps hP _

theorem resyncAnchor.keeps (hP : Steady N P) (h : N "attack") : Keeps P (resyncAnchor cfg) := by
  have search : Triple P (find cfg "attack" 10) (fun found b => P b ∧ Found "attack" found b)
      fun _ => P :=
    ((find.keeps cfg hP h 10).both (find.found cfg "attack" 10)).conseq
      (fun _ hb => ⟨hb, trivial⟩) (fun _ _ h => h) fun _ _ h => h.1
  apply Triple.bind search
  intro found
  cases found with
  | some anchor =>
    apply Triple.modify
    rintro b ⟨hb, hfound⟩
    obtain ⟨clock, hclock⟩ := hfound anchor rfl
    exact hP.aimed hclock hb
  | none => exact (setback.keeps hP _).mono_start fun _ h => h.1

theorem settleAttack.keeps (hP : Steady N P) (hN : ∀ name ∈ recoveryNames, N name) :
    Keeps P (settleAttack cfg) := by
  have stalls : Keeps P (stalls cfg cfg.retry.maxStallWaits.toNat) :=
    (stalls.asks cfg (fun _ => ScreenOp.concerns_of_some rfl (hN _ (by decide)))
      (fun _ => ScreenOp.concerns_of_none rfl) _).keptBy hP
  apply Keeps.bind (find.keeps cfg hP (hN _ (by decide)) _)
  intro found
  split
  · apply Keeps.bind stalls
    intro stalled
    split
    · exact .bind (reload.keeps cfg hP (hN _ (by decide)) _) fun _ =>
        resyncAnchor.keeps cfg hP (hN _ (by decide))
    · exact .pure _
  · exact .pure _

theorem reloadAfterAttack.keeps (hP : Steady N P) (h : N "reload") :
    Keeps P (reloadAfterAttack cfg) := by
  unfold reloadAfterAttack
  split
  · exact reload.keeps cfg hP h _
  · exact .pure _

theorem submitTurn.keeps (hP : Steady N P) (hN : ∀ name ∈ recoveryNames, N name) :
    Keeps P (submitTurn cfg) := by
  apply Keeps.bind (findAndClick.keeps cfg hP (hN _ (by decide)) _).discard
  intro _
  apply Keeps.bind (settleAttack.keeps cfg hP hN)
  intro _
  exact reloadAfterAttack.keeps cfg hP (hN _ (by decide))

theorem pressNext.keeps (hP : Steady N P) (h : N "next") : Keeps P (pressNext cfg) := by
  apply Keeps.bind (findAndClick.keeps cfg hP h _)
  intro clicked
  split
  · exact wait.keeps hP _
  · exact .pure _

/-! ### Automation -/

theorem setAutoMode.keeps_steady (hP : Steady N P) (mode : AutoMode) :
    Keeps P (setAutoMode mode) := by
  apply Keeps.get_bind
  intro b
  dsimp only
  split
  · exact .bind (modifyState.keeps hP fun _ => rfl) fun _ => record.keeps hP nofun
  · exact .pure _

theorem trySemiAfterAttack.keeps (hP : Steady N P) (hN : ∀ name ∈ autoNames, N name) :
    Keeps P (trySemiAfterAttack cfg) :=
  .bind (press.keeps cfg hP (hN _ (by decide))) fun _ =>
    findAndClick.keeps cfg hP (hN _ (by decide)) _

theorem tryFull.keeps (hP : Steady N P) (hN : ∀ name ∈ autoNames, N name) :
    Keeps P (tryFull cfg) := by
  apply Keeps.bind (findAndClick.keeps cfg hP (hN _ (by decide)) _)
  intro clicked
  split
  · exact .pure _
  apply Keeps.bind (trySemiAfterAttack.keeps cfg hP hN)
  intro clicked
  split <;> exact .pure _

theorem trySemi.keeps (hP : Steady N P) (hN : ∀ name ∈ autoNames, N name) :
    Keeps P (trySemi cfg) := by
  apply Keeps.bind (find.keeps cfg hP (hN _ (by decide)) _)
  intro found
  split
  · exact .pure _
  apply Keeps.bind (trySemiAfterAttack.keeps cfg hP hN)
  intro clicked
  split
  · exact .pure _
  apply Keeps.bind (findAndClick.keeps cfg hP (hN _ (by decide)) _)
  intro clicked
  split <;> exact .pure _

theorem enableAuto.keeps (hP : Steady N P) (hN : ∀ name ∈ autoNames, N name) (kind : AutoKind) :
    Keeps P (enableAuto cfg kind) := by
  have finish (mode : AutoMode) : Keeps P (do
      if mode = .manual then setback .autoUnavailable
      setAutoMode mode) := by
    dsimp only
    split
    · exact .bind (setback.keeps hP _) fun _ => setAutoMode.keeps_steady hP mode
    · exact setAutoMode.keeps_steady hP mode
  apply Keeps.get_bind
  intro b
  split
  · exact .pure _
  refine .bind (modifyState.keeps hP fun _ => rfl) fun _ => ?_
  cases kind with
  | full => exact .bind (tryFull.keeps cfg hP hN) finish
  | semi => exact .bind (trySemi.keeps cfg hP hN) finish

theorem suspendAuto.keeps (hP : Steady N P) (hN : ∀ name ∈ autoNames, N name) :
    Keeps P (suspendAuto cfg) := by
  have press (kind : AutoKind) : Keeps P (press cfg (enabledControl kind)) := by
    cases kind with
    | full | semi => exact press.keeps cfg hP (hN _ (by decide))
  apply Keeps.get_bind
  intro b
  split
  · exact .pure _
  apply Keeps.bind (press _)
  intro _
  exact .bind (modifyState.keeps hP fun _ => rfl) fun _ => setAutoMode.keeps_steady hP _

theorem resumeAuto.keeps (hP : Steady N P) (hN : ∀ name ∈ autoNames, N name) :
    Keeps P (resumeAuto cfg) := by
  apply Keeps.get_bind
  intro b
  split
  · exact .pure _
  · exact .bind (modifyState.keeps hP fun _ => rfl) fun _ => enableAuto.keeps cfg hP hN _

/-! ### Turns -/

theorem waitForAttack.keeps (hP : Steady N P) (hN : ∀ name ∈ turnNames, N name) (tries : Nat) :
    Keeps P (waitForAttack cfg tries) := by
  induction tries with
  | zero => exact .pure _
  | succ tries ih =>
    have look : Keeps P (do
        dismissDialogs
        discard (wipeCheck cfg)
        either (sees "battle_concluded") (sees "exp_gained")) := by
      apply Keeps.bind (dismissDialogs.keeps hP (dialogNames_of_turnNames hN))
      intro _
      apply Keeps.bind (wipeCheck.keeps cfg hP (wipeNames_of_turnNames hN)).discard
      intro _
      exact .either (sees.keeps hP (hN _ (by decide))) (sees.keeps hP (hN _ (by decide)))
    have left : Keeps P (do return (← get).state.retreated) := .get_bind fun _ => .pure _
    apply Keeps.bind (.either left (seesTurn.keeps hP (hN _ (by decide)) (hN _ (by decide))))
    intro resolved
    split
    · exact .pure _
    apply Keeps.bind (.onlyIf look)
    intro ended
    split
    · exact .pure _
    · exact .bind (wait.keeps hP _) fun _ => ih

theorem awaitAutoTurn.keeps (hP : Steady N P) (hN : ∀ name ∈ turnNames, N name) (looks : Nat)
    (left : Bool) : Keeps P (awaitAutoTurn cfg looks left) := by
  induction looks generalizing left with
  | zero => exact .pure _
  | succ looks ih =>
    have again (ready : Bool) : Keeps P (do
        wait cfg.retry.pollInterval
        awaitAutoTurn cfg looks (left || !ready)) := .bind (wait.keeps hP _) fun _ => ih _
    apply Keeps.bind (check.keeps cfg hP (endNames_of_turnNames hN))
    intro _
    apply Keeps.bind (seesTurn.keeps hP (hN _ (by decide)) (hN _ (by decide)))
    intro ready
    dsimp only
    split
    · exact .pure _
    split
    · apply Keeps.bind (dismissDialogs.keeps hP (dialogNames_of_turnNames hN))
      intro _
      exact .bind (wipeCheck.keeps cfg hP (wipeNames_of_turnNames hN)).discard fun _ => again ready
    · exact again ready

theorem finishTurn.keeps (hP : Timeless N P) : Keeps P finishTurn := by
  apply Keeps.turn_bind
  intro turn
  apply Keeps.bind (.modify fun _ hb => hP.counted hb)
  intro _
  split
  · exact .modify fun _ hb => hP.moved _ hb
  · exact .halt _

theorem closeTurn.keeps (hP : Timeless N P) (hN : ∀ name ∈ turnNames, N name) (submit : Bool) :
    Keeps P (closeTurn cfg submit) := by
  have rest : Keeps P (do
      discard (waitForAttack cfg resolveTries)
      finishTurn
      check cfg
      pressNext cfg) := by
    apply Keeps.bind (waitForAttack.keeps cfg hP.toSteady hN _).discard
    intro _
    apply Keeps.bind (finishTurn.keeps hP)
    intro _
    apply Keeps.bind (check.keeps cfg hP.toSteady (endNames_of_turnNames hN))
    intro _
    exact pressNext.keeps cfg hP.toSteady (hN _ (by decide))
  have submit : Keeps P (submitTurn cfg) :=
    submitTurn.keeps cfg hP.toSteady (recoveryNames_of_turnNames hN)
  unfold closeTurn
  dsimp only
  split
  · exact .bind submit fun _ => rest
  apply Keeps.bind (awaitAutoTurn.keeps cfg hP.toSteady hN _ _)
  intro played
  split
  · exact .bind submit fun _ => rest
  · exact rest

theorem endTurn.keeps (hP : Timeless N P) (hN : ∀ name ∈ turnNames, N name) :
    Keeps P (endTurn cfg) := by
  apply Keeps.bind (resumeAuto.keeps cfg hP.toSteady (autoNames_of_turnNames hN))
  intro _
  exact .bind (.get_bind fun _ => .pure _) fun byHand => closeTurn.keeps cfg hP hN byHand

theorem fastForward.keeps (hP : Timeless N P) (hN : ∀ name ∈ turnNames, N name) (left : Nat) :
    Keeps P (fastForward cfg left) := by
  induction left with
  | zero => exact .pure _
  | succ left ih =>
    have close : Keeps P (do
        dismissDialogs
        closeTurn cfg (← isByHand)
        fastForward cfg left) := by
      apply Keeps.bind (dismissDialogs.keeps hP.toSteady (dialogNames_of_turnNames hN))
      intro _
      apply Keeps.bind (.get_bind fun _ => .pure _)
      intro byHand
      exact .bind (closeTurn.keeps cfg hP hN byHand) fun _ => ih
    unfold fastForward
    dsimp only
    split
    · exact .bind (suspendAuto.keeps cfg hP.toSteady (autoNames_of_turnNames hN)) fun _ => close
    · exact close

theorem enterTurn.keeps (hP : Timeless N P) (hN : ∀ name ∈ turnNames, N name) (marker : Nat) :
    Keeps P (enterTurn cfg marker) := by
  apply Keeps.bind (dismissDialogs.keeps hP.toSteady (dialogNames_of_turnNames hN))
  intro _
  apply Keeps.bind (resumeAuto.keeps cfg hP.toSteady (autoNames_of_turnNames hN))
  intro _
  apply Keeps.turn_bind
  intro current
  split
  · exact .bind (modifyState.keeps hP.toSteady fun _ => rfl) fun _ => record.keeps hP.toSteady nofun
  · refine .bind (modifyState.keeps hP.toSteady fun _ => rfl) fun _ => ?_
    split
    · exact record.keeps hP.toSteady nofun
    · apply Keeps.bind (fastForward.keeps cfg hP hN _)
      intro _
      exact .turn_bind fun _ => record.keeps hP.toSteady nofun

end BattlePilot.Play
