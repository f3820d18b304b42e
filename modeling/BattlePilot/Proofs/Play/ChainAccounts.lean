import BattlePilot.Proofs.Fight.SlotsFound
import BattlePilot.Proofs.Play.Accounts
import BattlePilot.Proofs.Play.KeepingCourses

/-! A chain is played once, from left to right, up to its first attack. What is told of it is an
account of the links up to there, and the attack ends the turn. -/

namespace BattlePilot.Play
open Battle

variable (cfg : Settings) {b₀ : Battle}

theorem useSkill.speaks {skill : UInt8} (h : (cfg.layout.skill? skill).isSome) :
    Speaks b₀ (fun _ word => word = [.clicked (slotLabel "skill" skill)])
      (useSkill cfg skill) := by
  unfold useSkill
  split
  · exact clickSlot.speaks _ _ _
  · next hnone => simp [hnone] at h

theorem selectAlly.speaks {ally : UInt8} (h : (cfg.layout.ally? ally).isSome) :
    Speaks b₀ (fun _ word => ∃ looks found, 0 < looks ∧ word = ChainNote.ofAlly ally looks found)
      (selectAlly cfg ally) := by
  unfold selectAlly
  split
  · next hnone => simp [hnone] at h
  · next offset _ =>
    apply Speaks.bind (find.sought cfg usualTries) (V := fun _ _ word =>
      ∃ found, word = ChainNote.clickIf found (slotLabel "ally" ally))
    · intro prompt
      cases prompt with
      | some prompt =>
        apply Speaks.silently_bind (beside.speaks prompt offset)
        exact fun _ => (click.speaks _ _).mono fun _ _ hword => ⟨true, hword⟩
      | none => exact .pure ⟨false, rfl⟩
    · rintro _ _ _ _ ⟨looks, hlooks, rfl⟩ ⟨found, rfl⟩
      exact ⟨looks, found, hlooks, rfl⟩

theorem skipSealed.speaks (slot skill : UInt8) :
    Speaks b₀ (fun _ word => ∃ closed,
      word = ChainNote.ofSealed b₀.state.currentTurn slot skill closed)
      (skipSealed cfg slot skill) := by
  apply Speaks.silently_bind (confirm.silent cfg (by decide) 2)
  intro sealed
  split
  · apply ((setback.speaks _).andThen fun _ => press.speaks cfg (by decide)).mono
    rintro _ _ ⟨_, _, rfl, ⟨closed, rfl⟩, rfl⟩
    exact ⟨some closed, rfl⟩
  · exact .pure ⟨none, rfl⟩

theorem idle.speaks (pause : Settings.Pause) : Silently b₀ (idle pause) := by
  cases pause with
  | none => exact .pure rfl
  | span d => exact wait.speaks d
  | tooLong => exact .overflow

section

variable {slot skill : UInt8} {rest : List SkillOp}

/-- After a skill that asks for no target, which may be sealed. -/
theorem runOps.speaks_used (last : UInt8)
    (h : Speaks b₀ (fun _ => ChainTold b₀.state.currentTurn slot skill rest)
      (runOps cfg slot skill rest)) :
    Speaks b₀ (fun _ word => ChainTold b₀.state.currentTurn slot last (.useSkill skill :: rest)
        (.clicked (slotLabel "skill" skill) :: word)) (do
      skipSealed cfg slot skill
      idle cfg.idleAfterSkill
      runOps cfg slot skill rest) := by
  have rest := Speaks.silently_bind (idle.speaks cfg.idleAfterSkill) fun _ => h
  apply ((skipSealed.speaks cfg slot skill).andThen fun _ => rest).mono
  rintro _ _ ⟨_, _, ⟨closed, rfl⟩, ⟨notes, left, h, rfl⟩, rfl⟩
  refine ⟨_, left, .used closed h, ?_⟩
  simp

/-- After a skill that asks for the target right after it. -/
theorem runOps.speaks_aimed {ally : UInt8} (last : UInt8) (hally : (cfg.layout.ally? ally).isSome)
    (h : Speaks b₀ (fun _ => ChainTold b₀.state.currentTurn slot skill rest)
      (runOps cfg slot skill rest)) :
    Speaks b₀ (fun _ word => ChainTold b₀.state.currentTurn slot last
        (.useSkill skill :: .target ally :: rest)
        (.clicked (slotLabel "skill" skill) :: .prompted :: word)) (do
      selectAlly cfg ally
      idle cfg.idleAfterSkill
      runOps cfg slot skill rest) := by
  have rest := Speaks.silently_bind (idle.speaks cfg.idleAfterSkill) fun _ => h
  apply ((selectAlly.speaks cfg hally).andThen fun _ => rest).mono
  rintro _ _ ⟨_, _, ⟨looks, found, hlooks, rfl⟩, ⟨notes, left, h, rfl⟩, rfl⟩
  refine ⟨_, left, .aimed found hlooks h, ?_⟩
  simp

end

/-- What is told of a chain is an account of it. -/
theorem runOps.speaks {slot last : UInt8} {ops : List SkillOp} (hattack : .attack ∉ ops)
    (hslots : ∀ s ∈ ops.flatMap SkillOp.slots, (cfg.layout.offset? s.1 s.2).isSome) :
    Speaks b₀ (fun _ => ChainTold b₀.state.currentTurn slot last ops)
      (runOps cfg slot last ops) := by
  fun_induction runOps cfg slot last ops with
  | case1 =>
    apply (press.speaks cfg (by decide)).mono
    rintro _ _ ⟨left, h⟩
    exact ⟨[], left, .done, h⟩
  | case2 last skill ally rest ih₁ ih₂ =>
    have htarget : .attack ∉ SkillOp.target ally :: rest := List.not_mem_of_not_mem_cons hattack
    have hrest : .attack ∉ rest := List.not_mem_of_not_mem_cons htarget
    have hskill : (cfg.layout.skill? skill).isSome := hslots (.skill, skill) (.head _)
    have hally : (cfg.layout.ally? ally).isSome := hslots (.ally, ally) (.tail _ (.head _))
    have aimed := runOps.speaks_aimed cfg last hally
      (ih₁ hrest fun s hs => hslots s (.tail _ (.tail _ hs)))
    have used := runOps.speaks_used cfg last
      (ih₂ htarget fun s hs => hslots s (.tail _ hs))
    have asked : Speaks b₀ (fun _ word => ChainTold b₀.state.currentTurn slot last
        (.useSkill skill :: .target ally :: rest) (.clicked (slotLabel "skill" skill) :: word)) (do
      if ← confirm cfg "use_skill" 2 then
        selectAlly cfg ally
        idle cfg.idleAfterSkill
        runOps cfg slot skill rest
      else
        skipSealed cfg slot skill
        idle cfg.idleAfterSkill
        runOps cfg slot skill (.target ally :: rest)) := by
      apply Speaks.bind (confirm.prompted cfg 2) (V := fun asked _ word =>
        ChainTold b₀.state.currentTurn slot last (.useSkill skill :: .target ally :: rest)
          (.clicked (slotLabel "skill" skill) :: ((if asked then [.prompted] else []) ++ word)))
      · intro asked
        cases asked with
        | true => exact aimed
        | false => exact used
      · rintro asked _ _ word rfl hword
        exact hword
    apply ((useSkill.speaks cfg hskill).andThen fun _ => asked).mono
    rintro _ _ ⟨_, _, rfl, hword, rfl⟩
    exact hword
  | case3 last skill rest _ ih =>
    have hskill : (cfg.layout.skill? skill).isSome := hslots (.skill, skill) (.head _)
    have used := runOps.speaks_used cfg last
      (ih (List.not_mem_of_not_mem_cons hattack) fun s hs => hslots s (.tail _ hs))
    apply ((useSkill.speaks cfg hskill).andThen fun _ => used).mono
    rintro _ _ ⟨_, _, rfl, hword, rfl⟩
    exact hword
  | case4 last ally rest ih =>
    have rest := ih (List.not_mem_of_not_mem_cons hattack) fun s hs => hslots s (.tail _ hs)
    apply ((setback.speaks _).andThen fun _ => rest).mono
    rintro _ _ ⟨_, _, rfl, ⟨notes, left, h, rfl⟩, rfl⟩
    exact ⟨_, left, .unasked h, rfl⟩
  | case5 last d rest ih =>
    have rest := ih (List.not_mem_of_not_mem_cons hattack) hslots
    apply (Speaks.silently_bind (wait.speaks d) fun _ => rest).mono
    rintro _ _ ⟨notes, left, h, rfl⟩
    exact ⟨_, left, .waited h, rfl⟩
  | case6 => exact absurd List.mem_cons_self hattack

/-- An attack ends the turn once the links before it have been played; those after it are not. -/
theorem runOps_attack (slot last : UInt8) {before : List SkillOp} (h : .attack ∉ before)
    (after : List SkillOp) : runOps cfg slot last (before ++ .attack :: after) = (do
      runOps cfg slot last before
      endTurn cfg) := by
  fun_induction runOps cfg slot last before with
  | case1 => rfl
  | case2 last skill ally rest ih₁ ih₂ =>
    have htarget : .attack ∉ SkillOp.target ally :: rest := List.not_mem_of_not_mem_cons h
    have ih₁ := ih₁ (List.not_mem_of_not_mem_cons htarget)
    have ih₂ := ih₂ htarget
    rw [List.cons_append] at ih₂
    rw [List.cons_append, List.cons_append, runOps, bind_assoc]
    refine bind_congr fun _ => ?_
    rw [bind_assoc]
    refine bind_congr fun asked => ?_
    cases asked with
    | true => simp only [if_true, ih₁, bind_assoc]
    | false => simp only [Bool.false_eq_true, if_false, ih₂, bind_assoc]
  | case3 last skill rest hnone ih =>
    have ih := ih (List.not_mem_of_not_mem_cons h)
    have hnone' : ∀ ally rest', rest ++ .attack :: after = .target ally :: rest' → False := by
      intro ally rest' heq
      cases rest with
      | nil => cases heq
      | cons op rest =>
        cases heq
        exact hnone ally rest rfl
    rw [List.cons_append, runOps.eq_3 _ _ _ _ _ hnone']
    simp only [ih, bind_assoc]
  | case4 last ally rest ih =>
    rw [List.cons_append, runOps, ih (List.not_mem_of_not_mem_cons h), bind_assoc]
  | case5 last d rest ih =>
    rw [List.cons_append, runOps, ih (List.not_mem_of_not_mem_cons h), bind_assoc]
  | case6 => exact absurd List.mem_cons_self h

theorem endTurn_skillClicks (b : Battle) :
    ((endTurn cfg).run.run b).2.journal.skillClicks = b.journal.skillClicks := by
  have timeless : Timeless (SlotKind.skill.begins · = false)
      (·.journal.skillClicks = b.journal.skillClicks) :=
    .of_entries (fun _ => rfl) (fun _ _ _ h => h.skillClick?_eq_none _ _) _
  exact Keeps.holds (endTurn.keeps cfg timeless (by decide)) rfl

/-! ### Whole chains -/

section

variable {slot : UInt8} {ops : List SkillOp}

theorem runCharacter.speaks (hattack : .attack ∉ ops)
    (hslots : ∀ s ∈ (Command.character slot ops).slots, (cfg.layout.offset? s.1 s.2).isSome) :
    Speaks b₀ (fun _ => Chained b₀.state.currentTurn slot ops) (runCharacter cfg slot ops) := by
  have hslot : (cfg.layout.character? slot).isSome := hslots (.character, slot) (.head _)
  have ops : Speaks b₀ (fun _ => ChainTold b₀.state.currentTurn slot 0 ops)
      (runOps cfg slot 0 ops) :=
    runOps.speaks cfg hattack fun s hs => hslots s (.tail _ hs)
  unfold runCharacter
  split
  · next hnone => simp [hnone] at hslot
  · apply ((doubleClickSlot.speaks _ _ _).andThen fun _ => ops).mono
    rintro _ _ ⟨_, _, rfl, ⟨notes, left, h, rfl⟩, rfl⟩
    exact h.chained left

theorem runCharacter_attack (hslot : (cfg.layout.character? slot).isSome)
    (hattack : .attack ∈ ops) : runCharacter cfg slot ops = (do
      runCharacter cfg slot (SkillOp.untilAttack ops)
      endTurn cfg) := by
  obtain ⟨after, hops⟩ := SkillOp.exists_of_attack_mem hattack
  have hbefore := SkillOp.attack_not_mem_untilAttack ops
  obtain ⟨offset, hoffset⟩ := Option.isSome_iff_exists.1 hslot
  conv_lhs => rw [hops]
  simp only [runCharacter, hoffset, runOps_attack cfg slot 0 hbefore after, bind_assoc]

end

/-- How the chain of a character ends. -/
inductive PlaysChain (cfg : Settings) (slot : UInt8) (ops : List SkillOp) (b : Battle) :
    Except Halt Unit × Battle → Prop
  /-- Without an attack, the turn goes on. -/
  | played {b' : Battle} {notes : List ChainNote} (hattack : .attack ∉ ops)
      (hnotes : Chained b.state.currentTurn slot ops notes) (h : b.Spoken notes b')
      (hskills : b'.journal.skillClicks = b.journal.skillClicks ++ SkillOp.skillLabels ops) :
    PlaysChain cfg slot ops b (.ok (), b')
  /-- The first attack ends the turn once what comes before it has been played. -/
  | attacked {b₁ : Battle} {notes : List ChainNote} (hattack : .attack ∈ ops)
      (hrun : (runCharacter cfg slot (SkillOp.untilAttack ops)).run.run b = (.ok (), b₁))
      (hnotes : Chained b.state.currentTurn slot (SkillOp.untilAttack ops) notes)
      (h : b.Spoken notes b₁)
      (hskills : ((endTurn cfg).run.run b₁).2.journal.skillClicks =
        b.journal.skillClicks ++ SkillOp.skillLabels (SkillOp.untilAttack ops)) :
    PlaysChain cfg slot ops b ((endTurn cfg).run.run b₁)
  /-- An overflow cuts it short: what was told is the beginning of what might have been. -/
  | cut {b' : Battle} {notes part : List ChainNote}
      (hnotes : Chained b.state.currentTurn slot (SkillOp.untilAttack ops) notes)
      (hpart : part <+: notes) (h : b.Spoken part b') :
    PlaysChain cfg slot ops b (.error .overflow, b')

/-- A chain is played once, from left to right, up to its first attack, which ends the turn: what is
told of it is an account of these links and of nothing else, and no other skill is clicked. -/
theorem runCharacter_accounts {cfg : Settings} {slot : UInt8} {ops : List SkillOp}
    (hfault : cfg.fault? = none) (hrange : (Command.character slot ops).InRange) (b : Battle) :
    PlaysChain cfg slot ops b ((runCharacter cfg slot ops).run.run b) := by
  have hlayout := Settings.layout_fault?_eq_none hfault
  have hslot : (cfg.layout.character? slot).isSome :=
    (hrange.placed hlayout).slots (.character, slot) (.head _)
  have hbefore : (Command.character slot (SkillOp.untilAttack ops)).InRange :=
    ⟨hrange.1, fun op hop => hrange.2 op ((List.takeWhile_sublist _).mem hop)⟩
  have speaks : Speaks b (fun _ => Chained b.state.currentTurn slot (SkillOp.untilAttack ops))
      (runCharacter cfg slot (SkillOp.untilAttack ops)) :=
    runCharacter.speaks cfg (SkillOp.attack_not_mem_untilAttack ops) (hbefore.placed hlayout).slots
  rcases hrun : (runCharacter cfg slot (SkillOp.untilAttack ops)).run.run b with ⟨halt | u, b₁⟩
  · obtain ⟨rfl, _, notes, part, hnotes, hpart, hb₁⟩ := (speaks.run []).of_error (.refl b) hrun
    have hcut : (runCharacter cfg slot ops).run.run b = (.error .overflow, b₁) := by
      by_cases hattack : .attack ∈ ops
      · rw [runCharacter_attack cfg hslot hattack, ExceptT.run_bind, StateT.run_bind, hrun]
        rfl
      · rwa [SkillOp.untilAttack_of_not_mem hattack] at hrun
    rw [hcut]
    exact .cut hnotes hpart hb₁
  · obtain ⟨notes, hnotes, hb₁⟩ := (speaks.run []).of_ok (.refl b) hrun
    by_cases hattack : .attack ∈ ops
    · have hend : (runCharacter cfg slot ops).run.run b = (endTurn cfg).run.run b₁ := by
        rw [runCharacter_attack cfg hslot hattack, ExceptT.run_bind, StateT.run_bind, hrun]
        rfl
      rw [hend]
      refine .attacked hattack hrun hnotes hb₁ ?_
      rw [endTurn_skillClicks, hb₁.skillClicks]
      exact congrArg _ hnotes.skills
    · rw [SkillOp.untilAttack_of_not_mem hattack] at hrun hnotes
      rw [hrun]
      refine .played hattack hnotes hb₁ ?_
      rw [hb₁.skillClicks]
      exact congrArg _ hnotes.skills

/-- The first target is picked for the skill before it, and nobody asked for the second one; the
other skill is sealed, and the attack ends the turn before the last one. -/
theorem runCharacter_accounts_sealed :
    let cfg : Settings := {}
    let ops : List SkillOp :=
      [.useSkill 2, .target 5, .target 1, .useSkill 1, .attack, .useSkill 3]
    let b : Battle := .start (.ofScenario {
      visible := ["attack", "back", "cancel", "select_a_character"]
      rules := [{ onClick := some "skill2", shows := ["use_skill"] },
        { onClick := some "skill1", shows := ["skill_unusable"] }] })
    let r := (runCharacter cfg 1 ops).run.run b
    cfg.fault? = none ∧ (Command.character 1 ops).InRange ∧ PlaysChain cfg 1 ops b r ∧
      r.2.screen.clickedLabels =
        ["character1", "skill2", "ally5", "skill1", "cancel", "back", "attack"] ∧
      r.2.journal.events = [.recovered 1 (.targetNotRequested 1 2),
        .recovered 1 (.skillSealed 1 1), .turnEnded 1] := by
  intro cfg ops b r
  have hfault : cfg.fault? = none := by decide +kernel
  have hrange : (Command.character 1 ops).InRange := by
    simp [ops, Command.InRange, SkillOp.InRange, Slot.Among, Slot.characters, Slot.skills,
      Slot.allies]
  exact ⟨hfault, hrange, runCharacter_accounts hfault hrange b, by decide +kernel,
    by decide +kernel⟩

end BattlePilot.Play
