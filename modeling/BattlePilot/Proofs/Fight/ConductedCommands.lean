import BattlePilot.Proofs.Fight.ConductedAuto
import BattlePilot.Proofs.Play.Rounds

/-! The commands of a script and what plays on after them are conducted, and so is every fight. -/

namespace BattlePilot

namespace Play
open Battle Relation

variable {F : Setup} {t : Task} {P : BattleState → Prop} {Q : Unit → BattleState → Prop}
variable {s₀ : BattleState}

/-! ### Chains and summons -/

section

variable (ht : ∀ s, s.suspendedAuto = none → t.Closes s)
include ht

theorem runOps.conducts (slot : UInt8) : ∀ ops last,
    Conducts F t .idle Stays (runOps F.cfg slot last ops) .idle fun _ => Stays := by
  have stays : ∀ s, Stays s → Stays s := fun _ h => h
  intro ops last
  fun_induction runOps F.cfg slot last ops with
  | case1 => exact .quiet rfl stays (press.quiet F.cfg (.inl rfl))
  | case2 last skill ally rest ih₁ ih₂ =>
    refine .bind (.quiet rfl stays (useSkill.quiet F.cfg skill)) fun _ => ?_
    refine .bind (.quiet rfl stays (confirm.quiet F.cfg _ _)) fun asked => ?_
    split
    · refine .bind (.quiet rfl stays (selectAlly.quiet F.cfg ally)) fun _ => ?_
      exact .bind (.quiet rfl stays (idle.quiet _)) fun _ => ih₁
    · refine .bind (.quiet rfl stays (skipSealed.quiet F.cfg slot skill)) fun _ => ?_
      exact .bind (.quiet rfl stays (idle.quiet _)) fun _ => ih₂
  | case3 last skill rest _ ih =>
    refine .bind (.quiet rfl stays (useSkill.quiet F.cfg skill)) fun _ => ?_
    refine .bind (.quiet rfl stays (skipSealed.quiet F.cfg slot skill)) fun _ => ?_
    exact .bind (.quiet rfl stays (idle.quiet _)) fun _ => ih
  | case4 last ally rest ih => exact .bind (.quiet rfl stays (setback.quiet _)) fun _ => ih
  | case5 last d rest ih => exact .bind (.quiet rfl stays (wait.quiet _)) fun _ => ih
  | case6 =>
    refine .bind (.quiet rfl stays (press.quiet F.cfg (.inl rfl))) fun _ => ?_
    exact endTurn.conducts ht

theorem runCharacter.conducts (slot : UInt8) (ops : List SkillOp) :
    Conducts F t .idle Stays (runCharacter F.cfg slot ops) .idle fun _ => Stays := by
  unfold runCharacter
  split
  · exact .pure fun _ h => h
  · refine .bind (.quiet rfl (fun _ h => h)
      (doubleClickSlot.quiet (slotLabel_light rfl rfl _) _)) fun _ => ?_
    exact runOps.conducts ht slot ops 0

theorem runFollowUps.conducts : ∀ after,
    Conducts F t .idle Stays (runFollowUps F.cfg after) .idle fun _ => Stays
  | [] => .pure fun _ h => h
  | .wait _ :: rest =>
    .bind (.quiet rfl (fun _ h => h) (wait.quiet _)) fun _ => runFollowUps.conducts rest
  | .attack :: _ => endTurn.conducts ht

theorem runSummon.conducts (slot : UInt8) (after : List FollowUp) :
    Conducts F t .idle Stays (runSummon F.cfg slot after) .idle fun _ => Stays := by
  have stays : ∀ s, Stays s → Stays s := fun _ h => h
  have back : Quiet (fun _ => True) (discard (findAndClick F.cfg "back" 1)) :=
    .discard (findAndClick.quiet F.cfg (.inl rfl) _)
  unfold runSummon
  split
  · exact .pure fun _ h => h
  · refine .bind (.quiet rfl stays (press.quiet F.cfg (.inl rfl))) fun _ => ?_
    refine .bind (.quiet rfl stays (doubleClickSlot.quiet (slotLabel_light rfl rfl _) _))
      fun _ => ?_
    refine .bind (.quiet rfl stays (confirmSummon.quiet F.cfg slot)) fun _ => ?_
    refine .bind (.quiet rfl stays back) fun _ => ?_
    exact .bind (.quiet rfl stays (idle.quiet _)) fun _ => runFollowUps.conducts ht after

end

/-- Up to what follows it, a quick summon is done aside. -/
theorem runQuickSummon.conducts (hP : ∀ s, P s → Stays s)
    (rest : Conducts F t .idle P (runFollowUps F.cfg after) .idle Q) :
    Conducts F t .idle P (runQuickSummon F.cfg after) .idle Q := by
  have refused : Conducts F t .idle P (do
      setback .quickSummonNotReady
      runFollowUps F.cfg after) .idle Q :=
    .bind (.quiet rfl hP (setback.quiet _)) fun _ => rest
  refine .bind (.quiet rfl hP (look.quiet _)) fun notReady => ?_
  split
  · exact refused
  · refine .bind (.quiet rfl hP (pressQuickSummon.quiet F.cfg)) fun pressed => ?_
    split
    · exact rest
    · exact refused

/-! ### Turns by hand -/

theorem playByHand.conducts (action : HandAction) :
    Conducts F (.playing (.byHand action)) .idle Stays (playByHand F.cfg action) .idle
      fun _ => Anyhow := by
  have stays : ∀ s, Stays s → Stays s := fun _ h => h
  have closes : ∀ s, (Task.playing (.byHand action)).Closes s := fun _ => Or.inl rfl
  have finish {P : BattleState → Prop} : Conducts F (.playing (.byHand action)) .submitted P
      finishTurn .idle fun _ => Anyhow :=
    (finishTurn.conducts fun s _ => closes s).mono_value fun _ _ _ => trivial
  have await : Conducts F (.playing (.byHand action)) .submitted Stays (do
      discard (waitForAttack F.cfg resolveTries)
      finishTurn) .idle fun _ => Anyhow := by
    refine .of_state fun s₀ _ => ?_
    refine .bind (R := fun _ => s₀.Held) (.discard ?_) fun _ => finish
    exact (waitForAttack.conducts _).mono_start fun _ h => h ▸ .refl s₀
  cases action with
  | attack =>
    refine .submits (.inl rfl) _ stays ?_ (.pure fun _ _ => trivial)
    exact .bind (.quiet rfl stays (settleAttack.quiet F.cfg)) fun _ => finish
  | attackAndBack =>
    refine .submits (.inl rfl) _ stays ?_ (.pure fun _ _ => trivial)
    refine .bind (.quiet rfl stays (settleAttack.quiet F.cfg)) fun _ => ?_
    exact .bind (.quiet rfl stays (press.quiet F.cfg (.inr trivial))) fun _ => await
  | back => exact .submits (.inr rfl) _ stays await (.pure fun _ _ => trivial)
  | reload =>
    refine .submits (.inl rfl) _ stays ?_ (.pure fun _ _ => trivial)
    refine .bind (.quiet rfl stays (.discard (waitVanish.quiet _ _))) fun _ => ?_
    refine .bind (.quiet rfl stays (reload.quiet F.cfg _)) fun _ => ?_
    exact .bind (.quiet rfl stays (resyncAnchor.quiet F.cfg)) fun _ => finish

/-! ### Commands -/

/-- What a command does once it has been counted; an exit is left aside. -/
theorem act.conducts {b : Battle} (hb : Conduct F (.playing command) .idle b)
    (hs : Stays b.state) (hj : b.journal = .event (.dispatched turn command) :: earlier)
    (he : command ≠ .exit) :
    Triple (· = b) (act F.cfg command) (fun _ b' => Conduct F (.playing command) .idle b')
      fun _ b' => b'.Conducted F := by
  have from_stays {m : Play Unit} {Q : Unit → BattleState → Prop}
      (hm : Conducts F (.playing command) .idle Stays m .idle Q) :
      Triple (· = b) m (fun _ b' => Conduct F (.playing command) .idle b')
        fun _ b' => b'.Conducted F :=
    Triple.conseq hm (fun _ h => h ▸ ⟨hb, hs⟩) (fun _ _ h => h.1) fun _ _ h => h
  have quiet {m : Play Unit} (hm : Quiet (fun _ => True) m) :
      Triple (· = b) m (fun _ b' => Conduct F (.playing command) .idle b')
        fun _ b' => b'.Conducted F := from_stays (.quiet rfl (fun _ h => h) hm)
  have closes : ∀ s : BattleState, s.suspendedAuto = none → (Task.playing command).Closes s :=
    fun _ => Or.inr
  cases command with
  | turn n => exact quiet (.pure _)
  | endTurn => exact from_stays (endTurn.conducts closes)
  | character slot ops => exact from_stays (runCharacter.conducts closes slot ops)
  | summon slot after => exact from_stays (runSummon.conducts closes slot after)
  | quickSummon after =>
    exact from_stays (runQuickSummon.conducts (fun _ h => h) (runFollowUps.conducts closes after))
  | item item target => exact quiet (useItem.quiet F.cfg item target)
  | targetEnemy enemy => exact quiet (targetEnemy.quiet F.cfg enemy)
  | enableAuto kind =>
    have owes : b.Owes kind := .inr (.inr ⟨turn, earlier, hj⟩)
    refine (enableAuto.conducts hs kind).conseq ?_ (fun _ _ h => h.1) fun _ _ h => h
    rintro _ rfl
    exact ⟨hb, rfl, owes⟩
  | requestBackup viaSocial =>
    cases viaSocial with
    | false => exact quiet (requestBackup.quiet F.cfg)
    | true => exact quiet (tweetBackup.quiet F.cfg)
  | wait d => exact quiet (wait.quiet d)
  | byHand action => exact from_stays (playByHand.conducts action)
  | repeatAttack => exact .modify fun _ h => h ▸ hb.attacksOn .attacksOn
  | exit => exact absurd rfl he

/-- A command that is counted is played, and then an end is looked for. -/
theorem dispatch.conducts {b : Battle} (hb : Conduct F .reading .idle b)
    (hm : command.isMarker = false) (hf : Finds F.cfg none b)
    (hg : runsAnywhere command = true ∨
      b.state.autoMode.isActive = false ∧ b.state.inSync = true) :
    Triple (· = b) (dispatch F.cfg command) (fun _ b' => Conduct F .reading .idle b')
      fun _ b' => b'.Conducted F := by
  have finish : Triple (Conduct F (.playing command) .idle) (check F.cfg)
      (fun _ b' => Conduct F .reading .idle b') fun _ b' => b'.Conducted F :=
    Triple.conseq (check.stays (P := fun _ => True) rfl) (fun _ h => ⟨h, trivial⟩)
      (fun _ _ h => h.1.done) fun _ _ h => h
  rw [dispatch_eq F.cfg hm]
  refine .turn_bind fun b₁ h => ?_
  subst h
  refine .bind (R := fun _ b' => b' = b₁.noted (.dispatched b₁.state.currentTurn command))
    (.modify fun _ h => h ▸ rfl) fun _ => ?_
  refine .bind (R := fun _ b' => b' = b₁.counted command) (.modify fun _ h => h ▸ rfl) fun _ => ?_
  by_cases he : command = .exit
  · subst he
    have left : Triple (· = b₁.counted .exit) (act F.cfg .exit)
        (fun _ => Conduct F (.playing .exit) .idle) fun _ b' => b'.Conducted F := by
      refine ⟨fun b' h => ?_⟩
      subst h
      exact hb.dispatched (.left hf rfl)
    exact .bind left fun _ => finish
  · have hn : ∀ n, command ≠ .turn n := fun n h => by rw [h] at hm; cases hm
    have hcounted := hb.dispatched (.dispatched hf he hn hg)
    exact .bind (act.conducts hcounted hf.open.stays rfl he) fun _ => finish

/-- A step that is taken where the commands before it were played. -/
theorem step.conducts {b : Battle} (hb : Conduct F .reading .idle b)
    (hc : F.script = played ++ command :: rest)
    (ha : Fight.after? F.cfg F.screen played = some b) :
    Triple (· = b) (step F.cfg command) (fun _ b' => Conduct F .reading .idle b')
      fun _ b' => b'.Conducted F := by
  by_cases hm : command.isMarker = true
  · cases command with
    | turn n =>
      have look : Conducts F (.marker played n) .idle (· = b.state) (check F.cfg) .idle
          fun _ s => s = b.state ∧ Stays s := check.stays rfl
      refine .bind (Triple.mono_start look ?_) fun _ => .get_bind fun b₁ ⟨hb₁, hs, hstays⟩ => ?_
      · rintro _ rfl
        exact ⟨hb.entered hc ha, rfl⟩
      · refine (enterTurn.conducts hstays played n).conseq ?_ (fun _ _ h => h.1) fun _ _ h => h
        rintro _ rfl
        exact ⟨hb₁, rfl⟩
    | _ => cases hm
  · have hm := eq_false_of_ne_true hm
    have look := check.conducts (F := F) (t := .reading) (p := .idle) (P := (· = b.state)) rfl
    refine .bind (look.mono_start ?_) fun _ => .get_bind fun b₁ ⟨⟨hb₁, hs⟩, hf⟩ => ?_
    · rintro _ rfl
      exact ⟨hb, rfl⟩
    · dsimp only
      split
      · next hg =>
        rw [Bool.or_eq_true, Bool.and_eq_true, Bool.not_eq_true'] at hg
        exact dispatch.conducts hb₁ hm hf hg
      · exact .pure fun _ h => h ▸ hb₁

theorem steps.conducts {b₀ : Battle} (hb : Conduct F .reading .idle b₀)
    (hanchor : (findAnchor F.cfg).run.run (.start F.screen) = (.ok true, b₀))
    (played rest : List Command) (hc : F.script = played ++ rest) :
    Triple (· = b₀) (steps F.cfg played) (fun _ b => Conduct F .reading .idle b ∧
      Fight.after? F.cfg F.screen played = some b) fun _ b => b.Conducted F := by
  induction played using List.reverseRecOn generalizing rest with
  | nil =>
    refine .pure ?_
    rintro _ rfl
    exact ⟨hb, (Fight.after?_eq_some hanchor).2 rfl⟩
  | append_singleton played command ih =>
    rw [List.append_assoc] at hc
    rw [steps_concat]
    refine .bind (ih _ hc) fun _ => .of_eq fun b ⟨hreading, ha⟩ => ?_
    refine (step.conducts hreading hc ha).with_run.mono_value ?_
    rintro _ b' ⟨hb', hrun⟩
    exact ⟨hb', Fight.after?_concat ha hrun⟩

/-! ### Playing on -/

/-- Rounds after the script; each of them begins in a battle that stays. -/
theorem keepOn.conducts {round : Play Unit} (hround : Conducts F .onward .idle
      (fun s => P s ∧ Stays s) round .idle fun _ => P) (rounds : Nat) :
    Conducts F .onward .idle P (keepOn F.cfg round rounds) .idle fun _ _ => True := by
  induction rounds with
  | zero => exact Triple.halt fun _ h => h.1.conducted
  | succ rounds ih =>
    refine .bind (check.stays rfl) fun _ => ?_
    refine .bind (pressNext.conducts fun _ h => h.2) fun _ => .bind hround fun _ => ?_
    exact .bind (.gazes (wait.asks rfl)) fun _ => ih

/-- A turn is counted in a round only if no automation is owed, or if the script asked for it. -/
theorem attackOnce.conducts :
    Conducts F .onward .idle (fun s => Task.onward.Closes s ∧ Stays s) (attackOnce F.cfg) .idle
      fun _ s => Task.onward.Closes s := by
  refine .of_state fun s₀ ⟨hclose, hs⟩ => ?_
  have stays : ∀ s, s = s₀ → Stays s := fun _ h => h ▸ hs
  refine .submits (.inl rfl) _ stays ?_ ?_
  · refine .bind (.quiet rfl stays (settleAttack.quiet F.cfg)) fun _ => ?_
    refine .bind (.quiet rfl stays (reloadAfterAttack.quiet F.cfg)) fun _ => ?_
    have await : Conducts F .onward .submitted (· = s₀) (waitForAttack F.cfg resolveTries)
        .submitted fun _ => s₀.Held :=
      (waitForAttack.conducts _).mono_start fun _ h => h ▸ .refl s₀
    refine .bind await fun resolved => ?_
    split
    · refine (finishTurn.conducts fun _ h => hclose.held h).mono_value ?_
      rintro _ _ ⟨s₁, hheld, rfl⟩
      have hclose₁ : Task.onward.Closes s₁ := hclose.held hheld
      exact hclose₁
    · exact Triple.pure fun _ h => ⟨h.1.gaveUp, hclose.held h.2⟩
  · refine (wipeCheck.conducts rfl).mono ?_ fun _ _ h => hclose.held h
    rintro _ rfl
    exact ⟨.refl _, hs⟩

theorem attackOn.conducts (rounds : Nat) :
    Conducts F .onward .idle (fun s => Task.onward.Closes s) (attackOn F.cfg rounds) .idle
      fun _ _ => True := by
  rw [attackOn_eq]
  exact keepOn.conducts attackOnce.conducts rounds

theorem watchAuto.conducts (rounds : Nat) :
    Conducts F .onward .idle Anyhow (watchAuto F.cfg rounds) .idle fun _ _ => True := by
  rw [watchAuto_eq]
  refine keepOn.conducts (.of_state fun s₀ ⟨_, hs⟩ => ?_) rounds
  have tend : Conducts F .onward .idle (fun s => s₀.Held s ∧ Stays s)
      (discard (wipeCheck F.cfg)) .idle fun _ => s₀.Held := wipeCheck.conducts rfl
  refine tend.mono ?_ fun _ _ _ => trivial
  rintro _ rfl
  exact ⟨.refl _, hs⟩

/-- Once automation takes over, none is owed. -/
theorem handOver.conducts :
    Conducts F .onward .idle Stays (handOver F.cfg) .idle fun _ s => s.suspendedAuto = none := by
  have settled {s₀ s : BattleState} (hs : Stays s₀) (h : s₀.Settled s) :
      s.suspendedAuto = none ∧ Stays s := by
    obtain ⟨mode, rfl⟩ := h
    exact ⟨rfl, hs⟩
  have enable : Conducts F .onward .idle (fun s => s.suspendedAuto = none ∧ Stays s)
      (enableAuto F.cfg .full) .idle fun _ s => s.suspendedAuto = none := by
    refine .of_eq fun b hb ⟨hnone, hs⟩ => ?_
    refine (enableAuto.conducts (t := .onward) hs .full).conseq ?_ ?_ fun _ _ h => h
    · rintro _ rfl
      exact ⟨hb, rfl, .inl hnone⟩
    · exact fun _ _ h => ⟨h.1, (settled hs h.2).1⟩
  refine .of_state fun s₀ hs => .bind (resumeAuto.conducts hs) fun _ => ?_
  refine .get_bind fun b hsettled => ?_
  have hb := settled hs hsettled
  dsimp only
  split
  · split
    · have summon : Conducts F .onward .idle (· = b.state) (runQuickSummon F.cfg []) .idle
          fun _ => (· = b.state) :=
        runQuickSummon.conducts (fun _ h => h ▸ hb.2) (.pure fun _ h => h)
      exact .bind summon fun _ => enable.mono_start fun _ h => h ▸ hb
    · exact enable.mono_start fun _ h => h ▸ hb
  · exact .pure fun _ h => h ▸ hb.1

/-- The way to the next battle is sought under some condition. -/
theorem seekNext.conducts (hP : ∀ s, P s → Stays s) (condition : Bool) :
    Conducts F t .idle P (onlyIf condition (findAndClick F.cfg "next" 3)) .idle fun _ => P := by
  unfold onlyIf
  split
  · exact .quiet rfl hP (findAndClick.quiet F.cfg (.inr trivial) _)
  · exact .pure fun _ h => h

theorem playOn.conducts (rounds : Nat) :
    Conducts F .onward .idle Anyhow (playOn F.cfg rounds) .idle fun _ _ => True := by
  refine .bind (check.stays rfl) fun _ => ?_
  refine .bind (seekNext.conducts (fun _ h => h.2) _) fun moved => ?_
  split
  · exact ⟨fun _ h => (h.1.concluded .battleConcluded).conducted⟩
  · refine .get_bind fun b ⟨_, hs⟩ => ?_
    split
    · next h => exact (attackOn.conducts rounds).mono_start fun _ hb => hb ▸ .inl h
    · refine .bind (handOver.conducts.mono_start fun _ h => h ▸ hs) fun _ => ?_
      refine .get_bind fun b hnone => ?_
      split
      · exact (watchAuto.conducts rounds).mono_start fun _ _ => trivial
      · exact (attackOn.conducts rounds).mono_start fun _ hb => hb ▸ .inr hnone

/-- A fight that is driven by its script. -/
theorem drive.conducts {b₀ : Battle} (hb : Conduct F .reading .idle b₀)
    (hanchor : (findAnchor F.cfg).run.run (.start F.screen) = (.ok true, b₀)) (rounds : Nat) :
    Triple (· = b₀) (drive F.cfg rounds F.script) (fun _ _ => True)
      fun _ b => b.Conducted F := by
  have script := steps.conducts hb hanchor F.script [] (List.append_nil _).symm
  refine .bind script fun _ => ?_
  refine Triple.conseq (playOn.conducts rounds) ?_ (fun _ _ _ => trivial) fun _ _ h => h
  exact fun _ h => ⟨h.1.ranOut h.2, trivial⟩

theorem findAnchor.conducts :
    Conducts F .reading .idle Stays (findAnchor F.cfg) .idle fun _ => Stays :=
  .quiet rfl (fun _ h => h) (findAnchor.quiet F.cfg)

end Play

/-! ### Fights -/

namespace Fight
open Battle

variable {cfg : Settings} {rounds : Nat} {lines : List String} {screen : Screen}

/-- The journal of a fight that was conducted; its end may be noted besides. -/
inductive FollowsConduct (F : Setup) : Journal → Prop
  | halted {b : Battle} (h : b.Conducted F) : FollowsConduct F b.journal
  | ended {b : Battle} (h : b.Conducted F) :
    FollowsConduct F (.event (.ended turn outcome) :: b.journal)

theorem stopped_follows {F : Setup} {b : Battle} (h : b.Conducted F) (warnings : List Warning)
    (halt : Halt) : FollowsConduct F (b.stopped warnings halt).journal := by
  cases halt with
  | ended outcome => exact .ended h
  | overflow | unfinished => exact .halted h

theorem ofScript_follows (cfg : Settings) (rounds : Nat) (script : Script) (screen : Screen) :
    FollowsConduct ⟨cfg, screen, script.commands⟩ (ofScript cfg rounds script screen).journal := by
  let F : Setup := ⟨cfg, screen, script.commands⟩
  have hstart : Conduct F .reading .idle (.start screen) := .start
  unfold ofScript
  match hanchor : (Play.findAnchor cfg).run.run (.start screen) with
  | (.error halt, b) =>
    have hb : b.Conducted F := (Play.findAnchor.conducts (F := F)).of_error ⟨hstart, rfl⟩ hanchor
    exact stopped_follows hb script.warnings halt
  | (.ok false, b) =>
    have hb := (Play.findAnchor.conducts (F := F)).of_ok ⟨hstart, rfl⟩ hanchor
    exact .halted hb.1.conducted
  | (.ok true, b₀) =>
    have hb := (Play.findAnchor.conducts (F := F)).of_ok ⟨hstart, rfl⟩ hanchor
    match hdrive : (Play.drive cfg rounds script.commands).run.run b₀ with
    | (.ok never, _) => exact nomatch never
    | (.error halt, b) =>
      simp only [hdrive]
      refine stopped_follows ?_ script.warnings halt
      exact (Play.drive.conducts (F := F) hb.1 hanchor rounds).of_error rfl hdrive

/-- Every fight is conducted, with the commands of its script if that can be read. -/
theorem run_follows (cfg : Settings) (rounds : Nat) (lines : List String) (screen : Screen) :
    ∃ commands, FollowsConduct ⟨cfg, screen, commands⟩ (run cfg rounds lines screen).journal ∧
      ∀ script, Script.parse lines = .ok script → commands = script.commands := by
  have refused (commands : List Command) : FollowsConduct ⟨cfg, screen, commands⟩ [] :=
    .halted (b := .start screen) (Conduct.start (F := ⟨cfg, screen, commands⟩)).conducted
  unfold run
  match hscript : Script.parse lines with
  | .error fault =>
    refine ⟨[], ?_, nofun⟩
    split
    · exact refused []
    · exact refused []
  | .ok script =>
    refine ⟨script.commands, ?_, fun _ h => by cases h; rfl⟩
    split
    · exact refused script.commands
    · exact ofScript_follows cfg rounds script screen

end Fight
end BattlePilot
