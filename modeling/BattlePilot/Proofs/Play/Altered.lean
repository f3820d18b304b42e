import BattlePilot.Battle.Fight
import BattlePilot.Proofs.Play.CommandCourses
import BattlePilot.Proofs.Play.Slots

/-! What a course of play depends on. What turn markers mean matters to markers only, and of the
tables only the entries of slots that are named. -/

namespace BattlePilot

namespace Settings

/-- The settings with another meaning of turn markers and other tables. -/
def altered (cfg : Settings) (turnSync : TurnSync) (layout : Layout) : Settings :=
  { cfg with strategy := { cfg.strategy with turnSync }, layout }

section
variable (cfg : Settings) (sync : TurnSync) (l : Layout)

@[simp] theorem altered_farmingMode : (cfg.altered sync l).farmingMode = cfg.farmingMode := rfl
@[simp] theorem altered_retry : (cfg.altered sync l).retry = cfg.retry := rfl
@[simp] theorem altered_quickSummonFirst :
    (cfg.altered sync l).quickSummonFirst = cfg.quickSummonFirst := rfl
@[simp] theorem altered_backsOutOnWipe :
    (cfg.altered sync l).backsOutOnWipe = cfg.backsOutOnWipe := rfl
@[simp] theorem altered_retreatsOnWipe :
    (cfg.altered sync l).retreatsOnWipe = cfg.retreatsOnWipe := rfl
@[simp] theorem altered_reloadsAfterAttack :
    (cfg.altered sync l).reloadsAfterAttack = cfg.reloadsAfterAttack := rfl
@[simp] theorem altered_timeBudget? : (cfg.altered sync l).timeBudget? = cfg.timeBudget? := rfl
@[simp] theorem altered_idleAfterSkill :
    (cfg.altered sync l).idleAfterSkill = cfg.idleAfterSkill := rfl
@[simp] theorem altered_idleAfterSummon :
    (cfg.altered sync l).idleAfterSummon = cfg.idleAfterSummon := rfl

end
end Settings

namespace Play

variable (cfg : Settings) (sync : TurnSync) (l : Layout)

/-! ### Looking and waiting -/

@[simp] theorem findWithin_altered (name : String) (more : Nat) :
    findWithin (cfg.altered sync l) name more = findWithin cfg name more := by
  induction more with
  | zero => rfl
  | succ more ih => simp [findWithin, ih]

@[simp] theorem find_altered : find (cfg.altered sync l) = find cfg := by
  funext name tries
  simp [find]

@[simp] theorem confirmWithin_altered (name : String) (more : Nat) :
    confirmWithin (cfg.altered sync l) name more = confirmWithin cfg name more := by
  induction more with
  | zero => rfl
  | succ more ih => simp [confirmWithin, ih]

@[simp] theorem confirm_altered : confirm (cfg.altered sync l) = confirm cfg := by
  funext name tries
  simp [confirm]

@[simp] theorem findAndClick_altered : findAndClick (cfg.altered sync l) = findAndClick cfg := by
  funext name tries
  simp [findAndClick]

@[simp] theorem press_altered : press (cfg.altered sync l) = press cfg := by
  funext name
  simp [press]

@[simp] theorem findAnchor_altered : findAnchor (cfg.altered sync l) = findAnchor cfg := by
  simp [findAnchor]

/-! ### After an attack, and at the end -/

@[simp] theorem reload_altered : reload (cfg.altered sync l) = reload cfg := by
  funext reason
  simp [reload]

@[simp] theorem resyncAnchor_altered : resyncAnchor (cfg.altered sync l) = resyncAnchor cfg := by
  simp [resyncAnchor]

@[simp] theorem stalls_altered (waits : Nat) :
    stalls (cfg.altered sync l) waits = stalls cfg waits := by
  induction waits with
  | zero => rfl
  | succ waits ih => simp [stalls, ih]

@[simp] theorem settleAttack_altered : settleAttack (cfg.altered sync l) = settleAttack cfg := by
  simp [settleAttack]

@[simp] theorem reloadAfterAttack_altered :
    reloadAfterAttack (cfg.altered sync l) = reloadAfterAttack cfg := by
  simp [reloadAfterAttack]

@[simp] theorem timeExceeded_altered : timeExceeded (cfg.altered sync l) = timeExceeded cfg := by
  funext b
  simp [timeExceeded]

@[simp] theorem classify_altered : classify (cfg.altered sync l) = classify cfg := by
  simp [classify]

@[simp] theorem check_altered : check (cfg.altered sync l) = check cfg := by
  simp [check]

@[simp] theorem leaveFallen_altered : leaveFallen (cfg.altered sync l) = leaveFallen cfg := by
  funext indicator
  simp [leaveFallen]

@[simp] theorem wipeCheck_altered : wipeCheck (cfg.altered sync l) = wipeCheck cfg := by
  simp [wipeCheck]

/-! ### Automation -/

@[simp] theorem trySemiAfterAttack_altered :
    trySemiAfterAttack (cfg.altered sync l) = trySemiAfterAttack cfg := by
  simp [trySemiAfterAttack]

@[simp] theorem tryFull_altered : tryFull (cfg.altered sync l) = tryFull cfg := by
  simp [tryFull]

@[simp] theorem trySemi_altered : trySemi (cfg.altered sync l) = trySemi cfg := by
  simp [trySemi]

@[simp] theorem enableAuto_altered : enableAuto (cfg.altered sync l) = enableAuto cfg := by
  funext kind
  simp [enableAuto]

@[simp] theorem suspendAuto_altered : suspendAuto (cfg.altered sync l) = suspendAuto cfg := by
  simp [suspendAuto]

@[simp] theorem resumeAuto_altered : resumeAuto (cfg.altered sync l) = resumeAuto cfg := by
  simp [resumeAuto]

/-! ### Turns -/

@[simp] theorem waitForAttack_altered (tries : Nat) :
    waitForAttack (cfg.altered sync l) tries = waitForAttack cfg tries := by
  induction tries with
  | zero => rfl
  | succ tries ih => simp [waitForAttack, ih]

@[simp] theorem awaitAutoTurn_altered (looks : Nat) (left : Bool) :
    awaitAutoTurn (cfg.altered sync l) looks left = awaitAutoTurn cfg looks left := by
  induction looks generalizing left with
  | zero => rfl
  | succ looks ih => simp [awaitAutoTurn, ih]

@[simp] theorem submitTurn_altered : submitTurn (cfg.altered sync l) = submitTurn cfg := by
  simp [submitTurn]

@[simp] theorem pressNext_altered : pressNext (cfg.altered sync l) = pressNext cfg := by
  simp [pressNext]

@[simp] theorem closeTurn_altered : closeTurn (cfg.altered sync l) = closeTurn cfg := by
  funext submit
  simp [closeTurn]

@[simp] theorem endTurn_altered : endTurn (cfg.altered sync l) = endTurn cfg := by
  simp [endTurn]

@[simp] theorem fastForward_altered (left : Nat) :
    fastForward (cfg.altered sync l) left = fastForward cfg left := by
  induction left with
  | zero => rfl
  | succ left ih => simp [fastForward, ih]

/-! ### Commands -/

@[simp] theorem skipSealed_altered : skipSealed (cfg.altered sync l) = skipSealed cfg := by
  funext slot skill
  simp [skipSealed]

@[simp] theorem pickItem_altered : pickItem (cfg.altered sync l) = pickItem cfg := by
  funext item
  simp [pickItem]

@[simp] theorem confirmSummon_altered : confirmSummon (cfg.altered sync l) = confirmSummon cfg := by
  funext slot
  simp [confirmSummon]

@[simp] theorem runFollowUps_altered (after : List FollowUp) :
    runFollowUps (cfg.altered sync l) after = runFollowUps cfg after := by
  induction after with
  | nil => rfl
  | cons op rest ih => cases op <;> simp [runFollowUps, ih]

@[simp] theorem pressQuickSummon_altered :
    pressQuickSummon (cfg.altered sync l) = pressQuickSummon cfg := by
  simp [pressQuickSummon]

@[simp] theorem runQuickSummon_altered :
    runQuickSummon (cfg.altered sync l) = runQuickSummon cfg := by
  funext after
  simp [runQuickSummon]

@[simp] theorem seekBackup_altered (anchor : Point) (tries : Nat) :
    seekBackup (cfg.altered sync l) anchor tries = seekBackup cfg anchor tries := by
  induction tries with
  | zero => rfl
  | succ tries ih => simp [seekBackup, ih]

@[simp] theorem concludeBackup_altered :
    concludeBackup (cfg.altered sync l) = concludeBackup cfg := by
  funext success anchor
  simp [concludeBackup]

@[simp] theorem requestBackup_altered : requestBackup (cfg.altered sync l) = requestBackup cfg := by
  simp [requestBackup]

@[simp] theorem tweetBackup_altered : tweetBackup (cfg.altered sync l) = tweetBackup cfg := by
  simp [tweetBackup]

@[simp] theorem playByHand_altered : playByHand (cfg.altered sync l) = playByHand cfg := by
  funext action
  cases action <;> simp [playByHand]

/-! ### Commands that name slots -/

/-- Whether the tables have the same entries for some slots. -/
def Alike (l l' : Layout) (slots : List (SlotKind × UInt8)) : Prop :=
  ∀ s ∈ slots, l'.offset? s.1 s.2 = l.offset? s.1 s.2

theorem Alike.later {l l' : Layout} {slots later : List (SlotKind × UInt8)}
    (h : Alike l l' (slots ++ later)) : Alike l l' later :=
  fun s hs => h s (List.mem_append_right _ hs)

variable {cfg l}

theorem useSkill_altered (h : l.skill? skill = cfg.layout.skill? skill) :
    useSkill (cfg.altered sync l) skill = useSkill cfg skill := by
  rw [useSkill, useSkill, ← h]
  rfl

theorem selectAlly_altered (h : l.ally? ally = cfg.layout.ally? ally) :
    selectAlly (cfg.altered sync l) ally = selectAlly cfg ally := by
  rw [selectAlly, selectAlly, ← h, find_altered]
  rfl

theorem runOps_altered {ops : List SkillOp} (h : Alike cfg.layout l (ops.flatMap SkillOp.slots))
    (slot last : UInt8) : runOps (cfg.altered sync l) slot last ops = runOps cfg slot last ops := by
  fun_induction runOps cfg slot last ops with
  | case1 => rw [runOps, press_altered]
  | case2 last skill ally rest ih₁ ih₂ =>
    have hskill : l.skill? skill = cfg.layout.skill? skill := h (.skill, skill) List.mem_cons_self
    have hally : l.ally? ally = cfg.layout.ally? ally := h.later (.ally, ally) List.mem_cons_self
    rw [runOps, useSkill_altered sync hskill, confirm_altered, selectAlly_altered sync hally,
      skipSealed_altered, Settings.altered_idleAfterSkill, ih₁ h.later.later, ih₂ h.later]
  | case3 last skill rest hother ih =>
    have hskill : l.skill? skill = cfg.layout.skill? skill := h (.skill, skill) List.mem_cons_self
    rw [runOps, useSkill_altered sync hskill, skipSealed_altered, Settings.altered_idleAfterSkill,
      ih h.later]
    exact hother
  | case4 last ally rest ih => rw [runOps, ih h.later]
  | case5 last d rest ih => rw [runOps, ih h]
  | case6 => rw [runOps, press_altered, endTurn_altered]

theorem runCharacter_altered {ops : List SkillOp}
    (h : Alike cfg.layout l (Command.character slot ops).slots) :
    runCharacter (cfg.altered sync l) slot ops = runCharacter cfg slot ops := by
  have hslot : l.character? slot = cfg.layout.character? slot :=
    h (.character, slot) List.mem_cons_self
  have hops : Alike cfg.layout l (ops.flatMap SkillOp.slots) :=
    fun s hs => h s (List.mem_cons_of_mem _ hs)
  rw [runCharacter, runCharacter, ← hslot, runOps_altered sync hops]
  rfl

theorem runSummon_altered {after : List FollowUp}
    (h : l.summon? slot = cfg.layout.summon? slot) :
    runSummon (cfg.altered sync l) slot after = runSummon cfg slot after := by
  rw [runSummon, runSummon, ← h]
  simp
  rfl

theorem applyItem_altered {target : Option UInt8}
    (h : Alike cfg.layout l (Command.item item target).slots) :
    applyItem (cfg.altered sync l) item target = applyItem cfg item target := by
  cases target with
  | none => cases item <;> simp [applyItem]
  | some slot =>
    have hslot : l.character? slot = cfg.layout.character? slot :=
      h (.character, slot) List.mem_cons_self
    cases item <;> simp [applyItem, ← hslot] <;> rfl

theorem useItem_altered {target : Option UInt8}
    (h : Alike cfg.layout l (Command.item item target).slots) :
    useItem (cfg.altered sync l) item target = useItem cfg item target := by
  simp [useItem, applyItem_altered sync h]

theorem targetEnemy_altered (h : l.enemy? enemy = cfg.layout.enemy? enemy) :
    targetEnemy (cfg.altered sync l) enemy = targetEnemy cfg enemy := by
  rw [targetEnemy, targetEnemy, ← h, press_altered]
  rfl

/-- A command does the same if the slots that it names have the same entries. -/
theorem act_altered {c : Command} (h : Alike cfg.layout l c.slots) :
    act (cfg.altered sync l) c = act cfg c := by
  cases c with
  | character slot ops => exact runCharacter_altered sync h
  | summon slot after => exact runSummon_altered sync (h (.summon, slot) List.mem_cons_self)
  | item item target => exact useItem_altered sync h
  | targetEnemy enemy => exact targetEnemy_altered sync (h (.enemy, enemy) List.mem_cons_self)
  | requestBackup viaSocial => cases viaSocial <;> simp [act]
  | _ => simp [act]

/-! ### Playing on -/

variable (cfg l)

@[simp] theorem attackOnce_altered : attackOnce (cfg.altered sync l) = attackOnce cfg := by
  simp [attackOnce]

@[simp] theorem watchAuto_altered (rounds : Nat) :
    watchAuto (cfg.altered sync l) rounds = watchAuto cfg rounds := by
  induction rounds with
  | zero => rfl
  | succ rounds ih => simp [watchAuto, ih]

@[simp] theorem attackOn_altered (rounds : Nat) :
    attackOn (cfg.altered sync l) rounds = attackOn cfg rounds := by
  induction rounds with
  | zero => rfl
  | succ rounds ih => simp [attackOn, ih]

@[simp] theorem handOver_altered : handOver (cfg.altered sync l) = handOver cfg := by
  simp [handOver]

theorem playOn_altered (rounds : Nat) :
    playOn (cfg.altered sync l) rounds = playOn cfg rounds := by
  simp [playOn]

/-! ### Steps -/

variable {cfg l}

theorem dispatch_altered {command : Command} (hm : command.isMarker = false)
    (h : Alike cfg.layout l command.slots) :
    dispatch (cfg.altered sync l) command = dispatch cfg command := by
  rw [dispatch_eq _ hm, dispatch_eq _ hm, act_altered sync h, check_altered]

theorem enterTurn_altered (marker : Nat) :
    enterTurn (cfg.altered cfg.strategy.turnSync l) marker = enterTurn cfg marker := by
  have hsync : (cfg.altered cfg.strategy.turnSync l).strategy.turnSync = cfg.strategy.turnSync :=
    rfl
  simp [enterTurn, hsync]

theorem step_altered {command : Command} (h : Alike cfg.layout l command.slots) :
    step (cfg.altered cfg.strategy.turnSync l) command = step cfg command := by
  have hdispatch : dispatch (cfg.altered cfg.strategy.turnSync l) command =
      dispatch cfg command := by
    cases hm : command.isMarker with
    | false => exact dispatch_altered _ hm h
    | true =>
      cases command with
      | turn number => exact enterTurn_altered _
      | _ => cases hm
  rw [step, step, check_altered, hdispatch]

theorem steps_altered {commands : List Command} (h : ∀ c ∈ commands, Alike cfg.layout l c.slots) :
    steps (cfg.altered cfg.strategy.turnSync l) commands = steps cfg commands := by
  induction commands with
  | nil => rfl
  | cons command rest ih =>
    obtain ⟨hcommand, hrest⟩ := List.forall_mem_cons.1 h
    rw [steps, steps, step_altered hcommand, ih hrest]

end Play

/-- A fight is the same if its script is played in the same way from where the anchor is found. -/
theorem Fight.ofScript_altered {cfg : Settings} {sync : TurnSync} {l : Layout} {script : Script}
    {screen : Screen} (h : ∀ b, (Play.findAnchor cfg).run.run (.start screen) = (.ok true, b) →
      (Play.steps (cfg.altered sync l) script.commands).run.run b =
        (Play.steps cfg script.commands).run.run b) (rounds : Nat) :
    ofScript (cfg.altered sync l) rounds script screen = ofScript cfg rounds script screen := by
  rw [ofScript, ofScript, Play.findAnchor_altered]
  rcases hanchor : (Play.findAnchor cfg).run.run (.start screen) with ⟨halt | found, b₀⟩
  · rfl
  cases found with
  | false => rfl
  | true =>
    have hdrive : (Play.drive (cfg.altered sync l) rounds script.commands).run.run b₀ =
        (Play.drive cfg rounds script.commands).run.run b₀ := by
      apply Play.run_bind_congr (h b₀ hanchor)
      intro _ b _
      rw [Play.playOn_altered]
    simp only [hdrive]

end BattlePilot
