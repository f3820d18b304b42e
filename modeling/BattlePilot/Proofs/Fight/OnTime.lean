import BattlePilot.Proofs.Fight.Blocks
import BattlePilot.Proofs.Fight.Over
import BattlePilot.Proofs.Play.Altered

/-! Markers on time. Where each marker names the turn being played, it means the same as a label of
that turn. -/

namespace BattlePilot

namespace Play
open Battle

variable {cfg : Settings} {l : Layout} {marker : Nat} {b : Battle}

/-- A marker of the turn being played opens its block at once, whatever its number means. -/
theorem enterTurn_onTime (hstrict : cfg.strategy.turnSync = .strict)
    (hb : b.state.currentTurn = marker) :
    (enterTurn (cfg.altered .sequential l) marker).run.run b =
      (enterTurn cfg marker).run.run b := by
  have dismissed : Spec (·.state.currentTurn = marker) dismissDialogs
      (fun _ b => b.state.currentTurn = marker) fun _ _ => False :=
    (Within.sameTurn dismissDialogs.quiet).inTurn marker
  have resumed : Spec (·.state.currentTurn = marker) (resumeAuto cfg)
      (fun _ b => b.state.currentTurn = marker) fun _ _ => False :=
    (resumeAuto.sameTurn cfg).inTurn marker
  rw [enterTurn, enterTurn, resumeAuto_altered]
  apply run_bind_congr rfl
  intro _ b₁ h₁
  apply run_bind_congr rfl
  intro _ b₂ h₂
  have hb₂ : b₂.state.currentTurn = marker := resumed.of_ok (dismissed.of_ok hb h₁) h₂
  subst hb₂
  have hsync : (cfg.altered .sequential l).strategy.turnSync = .sequential := rfl
  simp only [hsync, hstrict]
  change _ = (do
    modifyState fun s => { s with targetTurn := b₂.state.currentTurn }
    if b₂.state.currentTurn < b₂.state.currentTurn then
      record (.markerSkipped b₂.state.currentTurn b₂.state.currentTurn)
    else
      fastForward cfg (b₂.state.currentTurn - b₂.state.currentTurn)
      record (.turnStarted (← currentTurn)) : Play Unit).run.run b₂
  rw [if_neg (Nat.lt_irrefl _), Nat.sub_self]
  rfl

end Play

namespace Fight
open Play

variable {cfg : Settings} {screen : Screen}

/-- Whether every marker that is come to names the turn being played. A marker is come to where no
ending is in sight before it. -/
def OnTime (cfg : Settings) (screen : Screen) (commands : List Command) : Prop :=
  ∀ before n rest b b', commands = before ++ .turn n :: rest → after? cfg screen before = some b →
    (check cfg).run.run b = (.ok (), b') → n.toNat = b'.state.currentTurn

theorem step_onTime (hstrict : cfg.strategy.turnSync = .strict) {b : Battle} {command : Command}
    (h : ∀ n b', command = .turn n → (check cfg).run.run b = (.ok (), b') →
      n.toNat = b'.state.currentTurn) :
    (step (cfg.altered .sequential cfg.layout) command).run.run b =
      (step cfg command).run.run b := by
  cases hm : command.isMarker with
  | false => rw [step, step, check_altered, dispatch_altered _ hm fun _ _ => rfl]
  | true =>
    cases command with
    | turn n =>
      rw [step_turn, step_turn, ← enterTurn_eq, ← enterTurn_eq, check_altered]
      apply run_bind_congr rfl
      intro _ b' hcheck
      exact enterTurn_onTime hstrict (h n b' rfl hcheck).symm
    | _ => cases hm

/-- What is left of a script is played in the same way once its first part has been. -/
theorem steps_onTime (hstrict : cfg.strategy.turnSync = .strict) (played : List Command)
    (htime : OnTime cfg screen (played ++ rest)) {b : Battle}
    (hplayed : after? cfg screen played = some b) :
    (steps (cfg.altered .sequential cfg.layout) rest).run.run b = (steps cfg rest).run.run b := by
  induction rest generalizing played b with
  | nil => rfl
  | cons command rest ih =>
    rw [steps, steps]
    apply run_bind_congr
    · apply step_onTime hstrict
      intro n b' hcommand
      subst hcommand
      exact htime played n rest b b' rfl hplayed
    · intro _ b₁ hstep
      apply ih (played ++ [command])
      · rwa [List.append_assoc]
      · exact after?_concat hplayed hstep

/-- A strict fight in which every marker that is come to names the turn being played is the fight
that labels make: it has the same report, and the screen gets the same input. -/
theorem labels_agree (hstrict : cfg.strategy.turnSync = .strict)
    (htime : ∀ script, Script.parse lines = .ok script → OnTime cfg screen script.commands)
    (rounds : Nat) :
    run { cfg with strategy := { cfg.strategy with turnSync := .sequential } } rounds lines screen =
      run cfg rounds lines screen := by
  change run (cfg.altered .sequential cfg.layout) rounds lines screen = _
  have hfault : (cfg.altered .sequential cfg.layout).fault? = cfg.fault? := rfl
  rw [run, run, hfault]
  cases cfg.fault? with
  | some fault => rfl
  | none =>
    cases hscript : Script.parse lines with
    | error fault => rfl
    | ok script =>
      apply ofScript_altered
      intro b₀ hanchor
      have hstart : after? cfg screen [] = some b₀ := (after?_eq_some hanchor).2 rfl
      exact steps_onTime hstrict [] (htime script hscript) hstart

theorem labels_agree_second :
    let cfg : Settings := {}
    let labels := { cfg with strategy := { cfg.strategy with turnSync := .sequential } }
    let lines := ["end", "turn 2:", "end"]
    let screen : Screen := .ofScenario {
      visible := ["attack"]
      rules := [{ onClick := some "attack", nth := some 2, shows := ["exp_gained"] }] }
    run labels 1 lines screen = run cfg 1 lines screen ∧
      (run labels 1 lines screen).result.toOption.map Report.events = some [.dispatched 1 .endTurn,
        .turnEnded 1, .turnStarted 2, .dispatched 2 .endTurn, .turnEnded 2, .ended 3 .expGained] := by
  intro cfg labels lines screen
  have hparse : Script.parse lines = .ok ⟨[.endTurn, .turn 2, .endTurn], []⟩ := by decide +kernel
  have hsecond : (after? cfg screen [.endTurn]).map
      (fun b => ((check cfg).run.run b).2.state.currentTurn) = some 2 := by decide +kernel
  refine ⟨labels_agree rfl ?_ 1, by decide +kernel⟩
  rw [hparse]
  intro script hscript before n rest b b' hc hb hcheck
  cases hscript
  -- Only one marker is among the commands.
  obtain _ | ⟨c₁, _ | ⟨c₂, _ | ⟨c₃, _ | ⟨c₄, before⟩⟩⟩⟩ := before <;> cases hc
  rw [hb, Option.map_some, hcheck] at hsecond
  exact (Option.some.inj hsecond).symm

end Fight
end BattlePilot
