import BattlePilot.Battle.Fight
import BattlePilot.Proofs.Play.TakeoverCourses
import Mathlib.Data.List.Induction

/-! Driving a battle through a script and beyond. Where the battle ends in the midst of the script,
the commands before were played, and it ends in the step of the next one. -/

namespace BattlePilot

namespace Battle

/-- How a battle that is driven by a script comes to its end. -/
inductive Ends (cfg : Settings) (commands : List Command) (b₀ : Battle) : Outcome → Battle → Prop
  | scripted (hc : commands = before ++ command :: rest)
      (hs : (Play.steps cfg before).run.run b₀ = (.ok (), b₁)) (hp : Plays cfg command b₁ b)
      (hv : Verdict cfg outcome b) : Ends cfg commands b₀ outcome b
  | playedOn (hs : (Play.steps cfg commands).run.run b₀ = (.ok (), b₁))
      (h : PlaysOn cfg b₁ outcome b) : Ends cfg commands b₀ outcome b

end Battle

namespace Play
open Battle

variable (cfg : Settings)

theorem steps_append (first second : List Command) :
    steps cfg (first ++ second) = (do
      steps cfg first
      steps cfg second) := by
  induction first with
  | nil => simp [steps]
  | cons command rest ih => simp [steps, ih]

theorem steps_concat (commands : List Command) (command : Command) :
    steps cfg (commands ++ [command]) = (do
      steps cfg commands
      step cfg command) := by
  rw [steps_append]
  simp [steps]

theorem drive_append (rounds : Nat) (first second : List Command) :
    drive cfg rounds (first ++ second) = (do
      steps cfg first
      drive cfg rounds second) := by
  simp only [drive, steps_append, bind_assoc]

variable {cfg}

theorem steps_concat_ok {b₀ b : Battle}
    (h : (steps cfg (commands ++ [command])).run.run b₀ = (.ok (), b)) :
    ∃ b₁, (steps cfg commands).run.run b₀ = (.ok (), b₁) ∧ Plays cfg command b₁ b ∧
      ∀ n, command = .turn n → Entered cfg n.toNat b.state := by
  rw [steps_concat] at h
  obtain ⟨_, b₁, hs, h⟩ := run_bind_ok h
  exact ⟨b₁, hs, (step.spec cfg command b₁).of_ok rfl h⟩

theorem steps_moves {K : Deed → Prop}
    (hK : ∀ c ∈ commands, (∀ d, Deed.During c d → K d) ∧ K (.dispatched c))
    {b₀ b : Battle} (h : (steps cfg commands).run.run b₀ = (.ok (), b)) : Moves cfg K b₀ b := by
  induction commands using List.reverseRecOn generalizing b with
  | nil =>
    cases h
    exact .refl
  | append_singleton commands command ih =>
    obtain ⟨b₁, hs, hp, -⟩ := steps_concat_ok h
    have hmem : command ∈ commands ++ [command] := by simp
    have hK' (c : Command) (hc : c ∈ commands) := hK c (List.mem_append_left _ hc)
    exact (ih hK' hs).trans (hp.moves (hK command hmem).1 (hK command hmem).2)

theorem steps_moves_any {b₀ b : Battle} (h : (steps cfg commands).run.run b₀ = (.ok (), b)) :
    Moves cfg (fun _ => True) b₀ b :=
  steps_moves (fun _ _ => ⟨fun _ _ => trivial, trivial⟩) h

variable (cfg)

/-- Steps through a script that end the battle do so in the step of one command. -/
theorem steps.spec (commands : List Command) (b₀ : Battle) :
    Spec (· = b₀) (steps cfg commands) (fun _ _ => True) fun outcome b =>
      ∃ before command rest b₁ b₂, commands = before ++ command :: rest ∧
        (steps cfg before).run.run b₀ = (.ok (), b₁) ∧ Plays cfg command b₁ b₂ ∧
        Verdict cfg outcome b₂ ∧ b = b₂.concluded outcome := by
  -- from the end: the battle ends before the last command, or in its step
  induction commands using List.reverseRecOn with
  | nil => exact .pure fun _ _ => trivial
  | append_singleton commands command ih =>
    rw [steps_concat]
    refine .bind (ih.with_run.mono_ended fun _ _ h => ?_) fun _ => ?_
    · obtain ⟨before, c, rest, b₁, b₂, rfl, h⟩ := h
      exact ⟨before, c, rest ++ [command], b₁, b₂, by simp, h⟩
    · refine .of_eq fun b ⟨_, hs⟩ => ?_
      refine (step.spec cfg command b).mono_result (fun _ _ _ => trivial) fun _ _ h => ?_
      obtain ⟨b₂, hp, hv, hb⟩ := h
      exact ⟨commands, command, [], b, b₂, rfl, hs, hp, hv, hb⟩

theorem drive.spec (rounds : Nat) (commands : List Command) (b₀ : Battle) :
    Spec (· = b₀) (drive cfg rounds commands) (fun _ _ => True)
      fun outcome b => ∃ b₁, Ends cfg commands b₀ outcome b₁ ∧ b = b₁.concluded outcome := by
  refine .bind ((steps.spec cfg commands b₀).with_run.mono_ended fun _ _ h => ?_) fun _ => ?_
  · obtain ⟨before, command, rest, b₁, b₂, hc, hs, hp, hv, hb⟩ := h
    exact ⟨b₂, .scripted hc hs hp hv, hb⟩
  · refine .of_eq fun b ⟨_, hs⟩ => ?_
    exact (playOn.spec cfg rounds b).mono_ended fun _ _ ⟨b₁, h, hb⟩ => ⟨b₁, .playedOn hs h, hb⟩

end Play

namespace Battle
open Play

theorem PlaysOn.moves {b₀ b : Battle} (h : PlaysOn cfg b₀ outcome b) :
    Moves cfg Deed.Onward b₀ b := by
  cases h with
  | found hm => exact hm
  | movedOn _ ha _ hc => exact Asks.moves (ha.trans (hc.asks.light (by decide)))

theorem Ends.moves {b₀ b : Battle} (h : Ends cfg commands b₀ outcome b) :
    Moves cfg (fun _ => True) b₀ b := by
  cases h with
  | scripted _ hs hp => exact (steps_moves_any hs).trans (hp.moves (fun _ _ => trivial) trivial)
  | playedOn hs h => exact (steps_moves_any hs).trans (h.moves.mono fun _ _ => trivial)

/-- The last look decides the end, unless a raid moves on. -/
theorem Ends.verdict_or {b₀ b : Battle} (h : Ends cfg commands b₀ outcome b) :
    Verdict cfg outcome b ∨ outcome = .battleConcluded ∧ cfg.farmingMode = .raid ∧
      ∃ b₁ b₂, (steps cfg commands).run.run b₀ = (.ok (), b₁) ∧ Asks cfg.Light b₁ b₂ ∧
        Finds cfg none b₂ ∧ Clicked "next" b₂ b := by
  cases h with
  | scripted _ _ _ hv => exact .inl hv
  | playedOn hs h =>
    cases h with
    | found _ hv => exact .inl hv
    | movedOn hr ha hf hc => exact .inr ⟨rfl, hr, _, _, hs, ha, hf, hc⟩

end Battle
end BattlePilot
