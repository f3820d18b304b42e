import BattlePilot.Proofs.Fight.Attacks
import BattlePilot.Proofs.Fight.ConductedCommands
import BattlePilot.Proofs.Fight.RaidStops
import BattlePilot.Proofs.Fight.Suspended

/-! Automation that gave way is kept: in every fight it is turned on again in time. -/

namespace BattlePilot

namespace Play
open Battle

variable {F : Setup}

/-- A course that no want of rounds cuts short says nothing of fights that were. -/
theorem Finishes.never {m : Play α} {S : Battle → Prop} (hf : Finishes m) (h : Triple P m Q E) :
    Triple P m Q fun halt b => halt = .unfinished → S b :=
  (h.both hf).conseq (fun _ hb => ⟨hb, trivial⟩) (fun _ _ h => h.1) fun _ _ h hu => absurd hu h.2

theorem seekNext.finishes (cfg : Settings) (condition : Bool) :
    Finishes (onlyIf condition (findAndClick cfg "next" 3)) := by
  unfold onlyIf
  split
  · exact .of_within (findAndClick.asks cfg 3)
  · exact .pure fun _ _ => trivial

/-- Where a battle is taken over, no automation is owed any longer, unless the script asked to
attack on. -/
theorem playOn.takesOver :
    Triple (Conduct F .onward .idle) (playOn F.cfg 0) (fun _ _ => True)
      fun halt b => halt = .unfinished →
        Conduct F .onward .idle b ∧ Task.onward.Closes b.state := by
  have looks : Triple (Conduct F .onward .idle) (check F.cfg)
      (fun _ b => Conduct F .onward .idle b ∧ Stays b.state) fun _ b => b.Conducted F := by
    have stays := check.stays (F := F) (t := .onward) (p := .idle) (P := Anyhow) rfl
    refine (Triple.mono_start stays fun _ h => ⟨h, trivial⟩).mono_value ?_
    exact fun _ _ h => ⟨h.1, h.2.2⟩
  refine .bind ((Finishes.of_orderly (check.orderly F.cfg)).never looks) fun _ => ?_
  refine .bind ((seekNext.finishes F.cfg _).never (seekNext.conducts (fun _ h => h) _))
    fun moved => ?_
  split
  · exact ⟨fun _ _ => nofun⟩
  · refine .get_bind fun b ⟨hb, hs⟩ => ?_
    split
    · next hattacks => exact ⟨fun _ h _ => h ▸ ⟨hb, .inl hattacks⟩⟩
    · refine .bind (Triple.mono_start ((handOver.finishes F.cfg).never handOver.conducts) ?_)
        fun _ => ?_
      · rintro _ rfl
        exact ⟨hb, hs⟩
      · refine .get_bind fun b' ⟨hb', hnone⟩ => ?_
        split
        · exact ⟨fun _ h _ => h ▸ ⟨hb', .inr hnone⟩⟩
        · exact ⟨fun _ h _ => h ▸ ⟨hb', .inr hnone⟩⟩

theorem drive.takesOver {b₀ : Battle} (hb : Conduct F .reading .idle b₀)
    (hanchor : (findAnchor F.cfg).run.run (.start F.screen) = (.ok true, b₀)) :
    Triple (· = b₀) (drive F.cfg 0 F.script) (fun _ _ => True)
      fun halt b => halt = .unfinished →
        Conduct F .onward .idle b ∧ Task.onward.Closes b.state := by
  have script := steps.conducts hb hanchor F.script [] (List.append_nil _).symm
  have finishes : Finishes (steps F.cfg F.script) :=
    .of_orderly (steps.orderly F.cfg trivial F.script)
  refine .bind (finishes.never script) fun _ => ?_
  exact playOn.takesOver.mono_start fun _ h => h.1.ranOut h.2

end Play

namespace Battle

/-- A battle is taken over with all automation resumed, or by a script that asked to attack on. -/
theorem Conduct.takenOver {F : Setup} (h : Conduct F .onward .idle b)
    (hclose : Task.onward.Closes b.state) : b.journal.AllResumed ∨ F.RanOut true b.journal := by
  rcases hclose with hattacks | hnone
  · have hplaced := h.placed
    rw [Placed, hattacks] at hplaced
    exact .inr hplaced
  · refine .inl (h.standing.resumed hnone ?_)
    rintro _ _ ⟨⟩

end Battle

namespace Fight
open Battle

variable {cfg : Settings} {rounds : Nat} {lines : List String} {screen : Screen} {script : Script}

/-- The battle where a fight by some commands comes to its halt. -/
def halted (cfg : Settings) (rounds : Nat) (screen : Screen) (commands : List Command) : Battle :=
  match (Play.findAnchor cfg).run.run (.start screen) with
  | (.ok true, b) => ((Play.drive cfg rounds commands).run.run b).2
  | (_, b) => b

theorem findAnchor_conduct {F : Setup}
    (h : (Play.findAnchor F.cfg).run.run (.start F.screen) = (.ok found, b)) :
    Conduct F .reading .idle b :=
  (Play.findAnchor.conducts.of_ok ⟨.start, rfl⟩ h).1

theorem scripted_conducted (cfg : Settings) (screen : Screen) (commands : List Command) :
    (scripted cfg screen commands).Conducted ⟨cfg, screen, commands⟩ := by
  let F : Setup := ⟨cfg, screen, commands⟩
  unfold scripted
  match hanchor : (Play.findAnchor cfg).run.run (.start screen) with
  | (.error halt, b) =>
    exact (Play.findAnchor.conducts (F := F)).of_error ⟨.start, rfl⟩ hanchor
  | (.ok false, b) => exact (findAnchor_conduct (F := F) hanchor).conducted
  | (.ok true, b₀) =>
    have hb := findAnchor_conduct (F := F) hanchor
    have hsteps := Play.steps.conducts hb hanchor commands [] (List.append_nil _).symm
    match hrun : (Play.steps cfg commands).run.run b₀ with
    | (.error halt, b) =>
      simp only [hrun]
      exact hsteps.of_error rfl hrun
    | (.ok (), b) =>
      simp only [hrun]
      exact (hsteps.of_ok rfl hrun).1.conducted

theorem halted_conducted (cfg : Settings) (rounds : Nat) (screen : Screen)
    (commands : List Command) :
    (halted cfg rounds screen commands).Conducted ⟨cfg, screen, commands⟩ := by
  let F : Setup := ⟨cfg, screen, commands⟩
  unfold halted
  match hanchor : (Play.findAnchor cfg).run.run (.start screen) with
  | (.error halt, b) =>
    exact (Play.findAnchor.conducts (F := F)).of_error ⟨.start, rfl⟩ hanchor
  | (.ok false, b) => exact (findAnchor_conduct (F := F) hanchor).conducted
  | (.ok true, b₀) =>
    have hb := findAnchor_conduct (F := F) hanchor
    match hrun : (Play.drive cfg rounds commands).run.run b₀ with
    | (.ok never, _) => exact nomatch never
    | (.error halt, b) =>
      simp only [hrun]
      exact (Play.drive.conducts hb hanchor rounds).of_error rfl hrun

/-- A fight with no rounds to play on that comes to its takeover. -/
theorem ofScript_takesOver
    (h : (ofScript cfg 0 script screen).result = .error .unfinished) :
    ∃ b, (ofScript cfg 0 script screen).journal = b.journal ∧
      Conduct ⟨cfg, screen, script.commands⟩ .onward .idle b ∧ Task.onward.Closes b.state := by
  let F : Setup := ⟨cfg, screen, script.commands⟩
  unfold ofScript at h ⊢
  match hanchor : (Play.findAnchor cfg).run.run (.start screen) with
  | (.error halt, b) =>
    rw [hanchor] at h
    have hfinishes := Play.Finishes.of_within (Play.findAnchor.quiet cfg (W := fun _ => True))
    exact absurd (stopped_unfinished_iff.1 h) (hfinishes.of_error trivial hanchor)
  | (.ok false, b) =>
    rw [hanchor] at h
    cases h
  | (.ok true, b₀) =>
    rw [hanchor] at h
    have hb := findAnchor_conduct (F := F) hanchor
    match hrun : (Play.drive cfg 0 script.commands).run.run b₀ with
    | (.ok never, _) => exact nomatch never
    | (.error halt, b) =>
      simp only [hrun] at h ⊢
      obtain rfl := stopped_unfinished_iff.1 h
      exact ⟨b, rfl, (Play.drive.takesOver hb hanchor).of_error rfl hrun rfl⟩

theorem FollowsConduct.suspends (h : FollowsConduct F j) (since : Journal) mode earlier
    (hsplit : j = since ++ .suspension mode :: earlier) : F.Suspends mode since earlier := by
  cases h with
  | halted h =>
    obtain ⟨t, p, h⟩ := h
    exact h.suspends since mode earlier hsplit
  | ended h =>
    obtain ⟨t, p, h⟩ := h
    cases since with
    | nil => cases hsplit
    | cons e since =>
      obtain ⟨rfl, htail⟩ := List.cons.inj hsplit
      obtain ⟨hgives, kind, hk, hkeeps, hmanual⟩ := h.suspends since mode earlier htail
      refine ⟨hgives, kind, hk, hkeeps.cons nofun nofun, hmanual.imp (·.cons _) fun h => ?_⟩
      exact List.forall_mem_cons.2 ⟨rfl, h⟩

/-- What a fight keeps about automation that gives way. -/
structure KeepsAutomation (cfg : Settings) (rounds : Nat) (lines : List String) (screen : Screen)
    (commands : List Command) : Prop where
  /-- Automation that is owed does not play, wherever a script stands or a fight halts. -/
  scripted : ∀ played, (scripted cfg screen played).state.suspendedAuto ≠ none →
    (scripted cfg screen played).state.autoMode = .manual
  halted : ∀ played, (halted cfg rounds screen played).state.suspendedAuto ≠ none →
    (halted cfg rounds screen played).state.autoMode = .manual
  suspends : ∀ (since : Journal) mode earlier,
    (run cfg rounds lines screen).journal = since ++ .suspension mode :: earlier →
      Setup.Suspends ⟨cfg, screen, commands⟩ mode since earlier
  /-- With no rounds the fight stops where the battle is taken over, and else goes on from there. -/
  prolongs : ∃ later, (run cfg rounds lines screen).journal =
    later ++ (run cfg 0 lines screen).journal
  takeover : (run cfg 0 lines screen).result = .error .unfinished →
    (run cfg 0 lines screen).journal.AllResumed ∨
      Setup.RanOut ⟨cfg, screen, commands⟩ true (run cfg 0 lines screen).journal

/-- In every fight automation that gives way is neither lost nor does it play while it is owed. -/
theorem automation_kept (hscript : Script.parse lines = .ok script) :
    KeepsAutomation cfg rounds lines screen script.commands where
  scripted played h := by
    obtain ⟨t, p, hb⟩ := scripted_conducted cfg screen played
    exact hb.owing.1 h
  halted played h := by
    obtain ⟨t, p, hb⟩ := halted_conducted cfg rounds screen played
    exact hb.owing.1 h
  suspends := by
    obtain ⟨commands, hfollows, hc⟩ := run_follows cfg rounds lines screen
    obtain rfl := hc script hscript
    exact hfollows.suspends
  prolongs := by
    simp only [run, hscript]
    split
    · exact ⟨[], rfl⟩
    · exact ofScript_prolongs cfg rounds script screen
  takeover h := by
    cases hfault : cfg.fault? with
    | some fault =>
      simp only [run, hfault] at h
      cases h
    | none =>
      simp only [run, hfault, hscript] at h ⊢
      obtain ⟨b, hj, hb, hclose⟩ := ofScript_takesOver h
      rw [hj]
      exact hb.takenOver hclose

/-- Full Auto gives way to the block of turn 2, and the end of that block turns it on again. -/
theorem automation_kept_resumed :
    let screen := Screen.ofScenario
      { visible := ["attack", "full_auto"]
        rules := [{ onClick := "full_auto", nth := some 2, shows := ["loot_collected"] }] }
    let lines := ["enablefullauto", "turn 2:", "end"]
    let commands := [.enableAuto .full, .turn 2, .endTurn]
    Script.parse lines = .ok ⟨commands, []⟩ ∧
      .suspension .fullAuto ∈ (run {} 10 lines screen).journal ∧
      KeepsAutomation {} 10 lines screen commands := by
  intro screen lines commands
  have hscript : Script.parse lines = .ok ⟨commands, []⟩ := by decide +kernel
  have hgives : .suspension .fullAuto ∈ (run {} 10 lines screen).journal := by decide +kernel
  exact ⟨hscript, hgives, @automation_kept {} 10 lines screen ⟨commands, []⟩ hscript⟩

end Fight
end BattlePilot
