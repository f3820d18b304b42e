import BattlePilot.Proofs.Play.Drive

/-! A fight that brings a report was played from the attack button to an end, and the report is
the one of the battle where it ended. -/

namespace BattlePilot

namespace Play
open Battle

theorem findAnchor.quiet {W : String → Prop} (cfg : Settings) : Quiet W (findAnchor cfg) := by
  unfold findAnchor
  split
  · refine .bind (press.quiet cfg (.inl rfl)) fun _ => Within.mended ?_
    exact find.aims cfg _ (fun _ => rfl) (.pure _) (.pure _)
  · refine Within.mended ?_
    exact find.aims cfg _ (fun _ => rfl) (.pure _) (.pure _)

theorem findAnchor.spec (cfg : Settings) (b : Battle) :
    Spec (· = b) (findAnchor cfg) (fun _ => Asides cfg.Clicks b) fun _ _ => False :=
  (findAnchor.quiet cfg).alone b

end Play

namespace Battle

def final (b : Battle) (outcome : Outcome) : Battle :=
  (b.concluded outcome).noteEnd outcome

@[simp] theorem final_events (b : Battle) (outcome : Outcome) :
    (b.final outcome).journal.events = b.journal.events ++ [.ended b.state.currentTurn outcome] :=
  Journal.events_event ..

end Battle

namespace Fight
open Battle

variable {cfg : Settings} {rounds : Nat} {lines : List String} {screen : Screen} {report : Report}

/-- The battle once some commands have been played, if it goes on for so long. -/
def after? (cfg : Settings) (screen : Screen) (commands : List Command) : Option Battle :=
  match (Play.findAnchor cfg).run.run (.start screen) with
  | (.ok true, b) =>
    match (Play.steps cfg commands).run.run b with
    | (.ok (), b) => some b
    | _ => none
  | _ => none

theorem after?_eq_some (hanchor : (Play.findAnchor cfg).run.run (.start screen) = (.ok true, b₀)) :
    after? cfg screen commands = some b ↔
      (Play.steps cfg commands).run.run b₀ = (.ok (), b) := by
  rw [after?, hanchor]
  dsimp only
  generalize (Play.steps cfg commands).run.run b₀ = result
  obtain ⟨_ | _, b'⟩ := result
  · exact ⟨nofun, nofun⟩
  · refine ⟨fun h => ?_, fun h => ?_⟩ <;> cases h <;> rfl

theorem anchor_of_after? {b : Battle} (h : after? cfg screen commands = some b) :
    ∃ b₀, (Play.findAnchor cfg).run.run (.start screen) = (.ok true, b₀) := by
  unfold after? at h
  match hanchor : (Play.findAnchor cfg).run.run (.start screen) with
  | (.ok true, b₀) => exact ⟨b₀, rfl⟩
  | (.error halt, b₀) | (.ok false, b₀) =>
    rw [hanchor] at h
    cases h

theorem after?_concat {b b' : Battle} (h : after? cfg screen played = some b)
    (hstep : (Play.step cfg command).run.run b = (.ok (), b')) :
    after? cfg screen (played ++ [command]) = some b' := by
  obtain ⟨b₀, hanchor⟩ := anchor_of_after? h
  rw [after?_eq_some hanchor] at h ⊢
  rw [Play.steps_concat, ExceptT.run_bind, StateT.run_bind, h]
  exact hstep

/-- A fight goes on from where some of its commands have been played. -/
theorem ofScript_of_after? {script : Script} {b : Battle} (rounds : Nat)
    (h : after? cfg screen first = some b)
    (hc : script.commands = first ++ second) :
    ∃ halt b', (Play.drive cfg rounds second).run.run b = (.error halt, b') ∧
      ofScript cfg rounds script screen = b'.stopped script.warnings halt := by
  obtain ⟨b₀, hanchor⟩ := anchor_of_after? h
  rw [after?_eq_some hanchor] at h
  have hdrive : (Play.drive cfg rounds script.commands).run.run b₀ =
      (Play.drive cfg rounds second).run.run b := by
    rw [hc, Play.drive_append, ExceptT.run_bind, StateT.run_bind, h]
    rfl
  simp only [ofScript, hanchor, hdrive]
  match (Play.drive cfg rounds second).run.run b with
  | (.ok never, _) => exact nomatch never
  | (.error halt, b') => exact ⟨halt, b', rfl, rfl⟩

/-- How a fight came to its report: the script was read, the attack button found at `b₀`, and the
battle ended at `b`. -/
inductive Over (cfg : Settings) (rounds : Nat) (lines : List String) (screen : Screen) :
    Report → Prop
  | mk (hscript : Script.parse lines = .ok script)
      (hanchor : (Play.findAnchor cfg).run.run (.start screen) = (.ok true, b₀))
      (hstart : Asides cfg.Clicks (.start screen) b₀)
      (hend : Ends cfg script.commands b₀ outcome b)
      (hmoves : Moves cfg (fun _ => True) (.start screen) b)
      (hrun : run cfg rounds lines screen =
        (b.concluded outcome).stopped script.warnings (.ended outcome)) :
    Over cfg rounds lines screen ((b.final outcome).report outcome script.warnings)

theorem stopped_of_ok {b : Battle} (h : (b.stopped warnings halt).result = .ok report) :
    ∃ outcome, halt = .ended outcome ∧ report = (b.noteEnd outcome).report outcome warnings := by
  cases halt with
  | ended outcome =>
    cases h
    exact ⟨outcome, rfl, rfl⟩
  | _ => cases h

theorem stopped_grows (b : Battle) (warnings : List Warning) (halt : Halt) :
    ∃ later, (b.stopped warnings halt).journal = later ++ b.journal := by
  cases halt with
  | ended outcome => exact ⟨[_], rfl⟩
  | overflow | unfinished => exact ⟨[], rfl⟩

theorem run_of_ok (h : (run cfg rounds lines screen).result = .ok report) :
    ∃ script, Script.parse lines = .ok script ∧
      run cfg rounds lines screen = ofScript cfg rounds script screen := by
  cases hfault : cfg.fault? with
  | some fault =>
    simp only [run, hfault] at h
    cases h
  | none =>
    cases hscript : Script.parse lines with
    | error fault =>
      simp only [run, hfault, hscript] at h
      cases h
    | ok script => exact ⟨script, rfl, by simp only [run, hfault, hscript]⟩

/-- Looking for the attack button does not end a battle, so that only the drive brings a report. -/
theorem ofScript_of_ok {script : Script}
    (h : (ofScript cfg rounds script screen).result = .ok report) :
    ∃ b₀ outcome b, (Play.findAnchor cfg).run.run (.start screen) = (.ok true, b₀) ∧
      (Play.drive cfg rounds script.commands).run.run b₀ = (.error (.ended outcome), b) ∧
      report = (b.noteEnd outcome).report outcome script.warnings ∧
      ofScript cfg rounds script screen = b.stopped script.warnings (.ended outcome) := by
  unfold ofScript at h ⊢
  match hanchor : (Play.findAnchor cfg).run.run (.start screen) with
  | (.error halt, b) =>
    rw [hanchor] at h
    obtain ⟨outcome, rfl, -⟩ := stopped_of_ok h
    exact ((Play.findAnchor.spec cfg (.start screen)).of_ended rfl hanchor).elim
  | (.ok false, b) =>
    rw [hanchor] at h
    cases h
  | (.ok true, b₀) =>
    rw [hanchor] at h
    match hdrive : (Play.drive cfg rounds script.commands).run.run b₀ with
    | (.ok never, _) => exact nomatch never
    | (.error halt, b) =>
      simp only [hdrive] at h ⊢
      obtain ⟨outcome, rfl, hreport⟩ := stopped_of_ok h
      exact ⟨b₀, outcome, b, rfl, hdrive, hreport, rfl⟩

theorem over_of_ok (h : (run cfg rounds lines screen).result = .ok report) :
    Over cfg rounds lines screen report := by
  obtain ⟨script, hscript, hrun⟩ := run_of_ok h
  rw [hrun] at h
  obtain ⟨b₀, outcome, b', hanchor, hdrive, rfl, hstopped⟩ := ofScript_of_ok h
  have hstart := (Play.findAnchor.spec cfg (.start screen)).of_ok rfl hanchor
  obtain ⟨b, hend, rfl⟩ := (Play.drive.spec cfg rounds script.commands b₀).of_ended rfl hdrive
  exact .mk hscript hanchor hstart hend ((Asides.moves hstart).trans hend.moves)
    (hrun.trans hstopped)

end Fight
end BattlePilot
