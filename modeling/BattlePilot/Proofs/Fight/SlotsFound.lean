import BattlePilot.Proofs.Play.Altered
import BattlePilot.Proofs.Play.HittingCommands

/-! Slots are found. Every slot that a script can name has its entry in a layout that has been
checked, and a fight clicks it there: beside the attack button, or allies beside the prompt that
asks for one. -/

namespace BattlePilot

/-- Whether every slot that a command names has an entry, and an item that is given to a character
has one to be given to. -/
structure Command.Placed (l : Layout) (c : Command) : Prop where
  slots : ∀ s ∈ c.slots, (l.offset? s.1 s.2).isSome
  target : ∀ item target, c = .item item target → item.needsTarget = true → target.isSome

theorem Command.InRange.placed {l : Layout} {c : Command} (hl : l.fault? = none)
    (h : c.InRange) : c.Placed l where
  slots s hs := (Layout.isSome_offset?_iff hl).2 (h.slots s hs)
  target item target hc hneeds := by
    subst hc
    cases target with
    | none =>
      have hnone : item.needsTarget = false := h
      rw [hneeds] at hnone
      cases hnone
    | some slot => rfl

theorem Settings.layout_fault?_eq_none {cfg : Settings} (h : cfg.fault? = none) :
    cfg.layout.fault? = none := by
  unfold fault? at h
  cases hl : cfg.layout.fault? with
  | none => rfl
  | some fault =>
    rw [hl] at h
    cases h

theorem Script.inRange_of_parse {lines : List String} {script : Script}
    (h : parse lines = .ok script) : ∀ c ∈ script.commands, c.InRange :=
  (parseFrom_forall (Q := fun _ => True)
    (fun _ _ _ hline => ⟨(line_ok hline).1, fun _ _ => trivial⟩) h).1

namespace Fight
open Battle

variable {cfg : Settings} {lines : List String} {script : Script}

@[simp] theorem stopped_screen (b : Battle) (warnings : List Warning) (halt : Halt) :
    (b.stopped warnings halt).screen = b.screen := by
  cases halt <;> rfl

/-- Wherever a fight stops, it has hit the slots that it clicked. -/
theorem ofScript_hits (cfg : Settings) (rounds : Nat) (script : Script) (screen : Screen) :
    ∃ received, (ofScript cfg rounds script screen).screen.inputs = received ++ screen.inputs ∧
      ∀ i ∈ received, i.OnSlot cfg.layout screen := by
  have hstart : (Battle.start screen).Charted cfg.layout screen := .start ..
  have anchored := Play.findAnchor.hits cfg cfg.layout screen
  rw [ofScript]
  rcases hanchor : (Play.findAnchor cfg).run.run (.start screen) with ⟨halt | found, b₀⟩
  · have hb₀ : b₀.Charted cfg.layout screen := anchored.of_error hstart hanchor
    simpa only [stopped_screen] using hb₀.received
  have hb₀ := anchored.of_ok hstart hanchor
  cases found with
  | false => exact hb₀.received
  | true =>
    rcases hdrive : (Play.drive cfg rounds script.commands).run.run b₀ with ⟨halt | never, b⟩
    · have hb : b.Anchored cfg.layout screen :=
        (Play.drive.hits cfg rounds script.commands).of_error hb₀ hdrive
      simpa only [hdrive, stopped_screen] using hb.received
    · exact never.elim

/-- In checked settings every slot that a script names has its entry, so that more entries change
nothing; and each click on a slot is beside the attack button, or for allies beside the prompt that
asks for one, as the layout has it. -/
theorem slots_found (hfault : cfg.fault? = none) (hscript : Script.parse lines = .ok script)
    (rounds : Nat) (screen : Screen) :
    (∀ c ∈ script.commands, c.Placed cfg.layout) ∧
    (∀ l : Layout,
      (∀ kind n, (cfg.layout.offset? kind n).isSome →
        l.offset? kind n = cfg.layout.offset? kind n) →
      ofScript { cfg with layout := l } rounds script screen = run cfg rounds lines screen) ∧
    ∃ received, (run cfg rounds lines screen).screen.inputs = received ++ screen.inputs ∧
      ∀ i ∈ received, i.OnSlot cfg.layout screen := by
  have hplaced : ∀ c ∈ script.commands, c.Placed cfg.layout := fun c hc =>
    (Script.inRange_of_parse hscript c hc).placed (Settings.layout_fault?_eq_none hfault)
  have hrun : run cfg rounds lines screen = ofScript cfg rounds script screen := by
    rw [run, hfault, hscript]
  rw [hrun]
  refine ⟨hplaced, fun l hl => ?_, ofScript_hits cfg rounds script screen⟩
  have halike : ∀ c ∈ script.commands, Play.Alike cfg.layout l c.slots := by
    intro c hc s hs
    exact hl s.1 s.2 ((hplaced c hc).slots s hs)
  have haltered : { cfg with layout := l } = cfg.altered cfg.strategy.turnSync l := rfl
  rw [haltered]
  apply ofScript_altered
  intro b₀ _
  rw [Play.steps_altered halike]

/-- The page is reloaded in the first turn; a fourth enemy would change nothing. -/
theorem slots_found_reloaded :
    let cfg : Settings := { retry := { maxStallWaits := 0 } }
    let four : Layout := { cfg.layout with enemies := cfg.layout.enemies ++ [⟨200, -290⟩] }
    let lines := ["attack", "turn 2:", "character1.useSkill(2).target(3)", "exit"]
    let script : Script :=
      ⟨[.byHand .attack, .turn 2, .character 1 [.useSkill 2, .target 3], .exit], []⟩
    let screen := Screen.ofScenario {
      visible := ["attack", "combat_cancel", "reload", "use_skill", "select_a_character"]
      positions := [("attack", ⟨1000, 700⟩), ("select_a_character", ⟨300, 300⟩)] }
    (∀ c ∈ script.commands, c.Placed cfg.layout) ∧
      ofScript { cfg with layout := four } 0 script screen = run cfg 0 lines screen ∧
      (∃ received, (run cfg 0 lines screen).screen.inputs = received ++ screen.inputs ∧
        ∀ i ∈ received, i.OnSlot cfg.layout screen) ∧
      (run cfg 0 lines screen).screen.inputs = [.home, .click "ally3" ⟨390, 385⟩,
        .click "skill2" ⟨868, 871⟩, .doubleClick "character1" ⟨683, 823⟩,
        .click "reload" ⟨640, 480⟩, .click "attack" ⟨1000, 700⟩] := by
  intro cfg four lines script screen
  have hparse : Script.parse lines = .ok script := by decide +kernel
  have hfault : cfg.fault? = none := by decide +kernel
  obtain ⟨hplaced, hmore, hinputs⟩ := slots_found hfault hparse 0 screen
  refine ⟨hplaced, hmore four ?_, hinputs, by decide +kernel⟩
  intro kind n hsome
  cases kind with
  | enemy =>
    obtain ⟨offset, hoffset⟩ := Option.isSome_iff_exists.1 hsome
    obtain ⟨hpos, hentry⟩ := Layout.offset?_eq_some_iff.1 hoffset
    obtain ⟨hlt, -⟩ := List.getElem?_eq_some_iff.1 hentry
    rw [hoffset, Layout.offset?_eq_some_iff]
    exact ⟨hpos, (List.getElem?_append_left hlt).trans hentry⟩
  | _ => rfl

end Fight
end BattlePilot
