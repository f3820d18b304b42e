import BattlePilot.Battle.Replay
import BattlePilot.Proofs.Fight.Over
import Mathlib.Data.List.Induction

/-! Replaying a fight from its events. At every point of a battle the events tell its turn, its
mode and the number of its commands, so that the report can be told from its own events. -/

namespace BattlePilot

def Event.endedTurn? : Event → Option Nat
  | turnEnded turn => some turn
  | _ => none

namespace Replay

theorem ofEvents?_concat (events : List Event) (e : Event) :
    ofEvents? (events ++ [e]) = (ofEvents? events).bind (step? · e) := by
  simp [ofEvents?, List.foldlM_append]

theorem step?_autoModeChanged {r : Replay} (ho : r.outcome = none) (hm : before = r.mode)
    (ha : before.isActive ≠ after.isActive) :
    r.step? (.autoModeChanged before after) = some { r with mode := after } := by
  simp [step?, ho, ← hm, ha]

theorem step?_markerSkipped {r : Replay} (ho : r.outcome = none) (hc : current = r.turn)
    (hm : marker < r.turn) : r.step? (.markerSkipped marker current) = some r := by
  simp [step?, ho, hc, hm]

theorem step?_ended {r : Replay} {turn : Nat} {outcome : Outcome} (ho : r.outcome = none)
    (ht : turn = r.turn) :
    r.step? (.ended turn outcome) = some { r with outcome := some outcome } := by
  simp [step?, ho, ht]

/-- One event ends the turn of the replay, or leaves the replay in its turn. -/
theorem turn_of_step? {r r' : Replay} (h : r.step? e = some r') :
    e.endedTurn? = some r.turn ∧ r'.turn = r.turn + 1 ∨ e.endedTurn? = none ∧ r'.turn = r.turn := by
  unfold step? at h
  split at h
  · cases h
  cases e with
  | turnEnded turn =>
    obtain ⟨rfl, h⟩ := Option.ite_none_right_eq_some.1 h
    cases h
    exact .inl ⟨rfl, rfl⟩
  | _ =>
    obtain ⟨_, h⟩ := Option.ite_none_right_eq_some.1 h
    cases h
    exact .inr ⟨rfl, rfl⟩

/-- The turns that end follow one another without a gap. -/
theorem endedTurns {events : List Event} {r : Replay} (h : ofEvents? events = some r) :
    1 ≤ r.turn ∧ events.filterMap Event.endedTurn? = List.range' 1 (r.turn - 1) := by
  induction events using List.reverseRecOn generalizing r with
  | nil =>
    cases h
    exact ⟨Nat.le_refl _, rfl⟩
  | append_singleton events e ih =>
    rw [ofEvents?_concat, Option.bind_eq_some_iff] at h
    obtain ⟨r₀, h₀, h⟩ := h
    obtain ⟨hle, ih⟩ := ih h₀
    rw [List.filterMap_append, ih]
    rcases turn_of_step? h with ⟨he, ht⟩ | ⟨he, ht⟩
    · refine ⟨by omega, ?_⟩
      have hn : r.turn - 1 = r₀.turn - 1 + 1 := by omega
      rw [hn, List.range'_concat]
      simp [he]
      omega
    · rw [ht]
      simp [he, hle]

theorem outcome_of_step? {r r' : Replay} (h : r.step? e = some r') : r.outcome = none := by
  unfold step? at h
  split at h
  · cases h
  · next hn => exact Option.not_isSome_iff_eq_none.1 hn

theorem outcome_of_step?_ended {r r' : Replay} {turn : Nat} {outcome : Outcome}
    (h : r.step? (.ended turn outcome) = some r') : r'.outcome = some outcome := by
  unfold step? at h
  split at h
  · cases h
  · obtain ⟨_, h⟩ := Option.ite_none_right_eq_some.1 h
    cases h
    rfl

theorem not_ended {events : List Event} {r : Replay} (h : ofEvents? events = some r)
    (ho : r.outcome = none) : ∀ turn outcome, .ended turn outcome ∉ events := by
  induction events using List.reverseRecOn generalizing r with
  | nil => exact nofun
  | append_singleton events e ih =>
    rw [ofEvents?_concat, Option.bind_eq_some_iff] at h
    obtain ⟨r₀, h₀, h⟩ := h
    intro turn outcome hmem
    rcases List.mem_append.1 hmem with hmem | hmem
    · exact ih h₀ (outcome_of_step? h) turn outcome hmem
    · cases List.mem_singleton.1 hmem
      rw [outcome_of_step?_ended h] at ho
      cases ho

end Replay

namespace Battle

/-- What the events of a battle that goes on tell of it. -/
def replay (b : Battle) : Replay :=
  ⟨b.state.currentTurn, b.state.autoMode, b.dispatched, none⟩

def Replayed (b : Battle) : Prop :=
  Replay.ofEvents? b.journal.events = some b.replay

theorem Replayed.start (screen : Screen) : (Battle.start screen).Replayed := rfl

/-- An event that the replay takes as the battle took it. -/
theorem Replayed.noted {b b' : Battle} (hb : b.Replayed)
    (hj : b'.journal.events = b.journal.events ++ [e])
    (he : b.replay.step? e = some b'.replay) : b'.Replayed := by
  rw [Replayed, hj, Replay.ofEvents?_concat, hb, Option.bind_some, he]

/-- What changes neither the events nor what they tell. -/
theorem Replayed.kept {b b' : Battle} (hb : b.Replayed) (hr : b'.replay = b.replay)
    (hj : b'.journal.events = b.journal.events) : b'.Replayed := by
  rw [Replayed, hj, hr, hb]

theorem Replayed.aside (h : Aside W b b') (hb : b.Replayed) : b'.Replayed := by
  cases h with
  | ask h =>
    cases h with
    | mk => exact hb.kept rfl (Journal.events_call ..)
  | setback s => exact hb.noted (Journal.events_event ..) (if_pos rfl)
  | reloaded reason => exact hb.noted (Journal.events_event ..) (if_pos rfl)
  | aim => exact hb.kept rfl rfl

theorem Replayed.does (h : Does cfg d b b') (hb : b.Replayed) : b'.Replayed := by
  cases h with
  | turnEnded => exact hb.noted (Journal.events_event ..) (if_pos rfl)
  | enabled hm ha =>
    refine hb.noted (Journal.events_event ..) (Replay.step?_autoModeChanged rfl hm.symm ?_)
    rw [ha]
    exact Bool.false_ne_true
  | suspended hk =>
    have ha : b.state.autoMode.isActive = true := by
      rw [AutoMode.isActive_eq_isSome_kind?, hk]
      rfl
    refine hb.noted (Journal.events_event ..) (Replay.step?_autoModeChanged rfl rfl ?_)
    rw [ha]
    exact Bool.false_ne_true.symm
  | released => exact hb.kept rfl rfl
  | wiped => exact hb.noted (Journal.events_event ..) (if_pos rfl)
  | backedOut =>
    refine hb.noted (e := .partyWiped b.state.currentTurn .backOut) ?_ (if_pos rfl)
    exact (Journal.events_event ..).trans (congrArg (· ++ [_]) (Journal.events_call ..))
  | dispatched => exact hb.noted (Journal.events_event ..) (if_pos rfl)
  | left =>
    refine hb.noted (e := .dispatched b.state.currentTurn .exit) ?_ (if_pos rfl)
    exact (Journal.events_call ..).trans (Journal.events_event ..)
  | attacksOn => exact hb.kept rfl rfl
  | aimed => exact hb.kept rfl rfl
  | opened => exact hb.noted (Journal.events_event ..) (if_pos rfl)
  | skipped h => exact hb.noted (Journal.events_event ..) (Replay.step?_markerSkipped rfl rfl h)

theorem Replayed.step (h : Step cfg K b b') (hb : b.Replayed) : b'.Replayed := by
  cases h with
  | aside h => exact hb.aside h
  | deed _ h => exact hb.does h

theorem Replayed.moves (h : Moves cfg K b b') (hb : b.Replayed) : b'.Replayed :=
  h.keeps (fun _ _ => .step) hb

end Battle

namespace Fight
open Battle

variable {cfg : Settings} {rounds : Nat} {lines : List String} {screen : Screen} {report : Report}

/-- A report can be told from its own events: each of them fits the turn, the mode and the number
of commands that those before it tell, the turns that end are counted from one without a gap, and
the end comes last and once. -/
theorem report_replayed (h : (run cfg rounds lines screen).result = .ok report) :
    Replay.ofEvents? report.events = some
        ⟨report.turnsCompleted + 1, report.autoMode, report.commandsDispatched,
          some report.outcome⟩ ∧
      report.events.filterMap Event.endedTurn? = List.range' 1 report.turnsCompleted ∧
      ∃ earlier, report.events = earlier ++ [.ended (report.turnsCompleted + 1) report.outcome] ∧
        ∀ turn outcome, .ended turn outcome ∉ earlier := by
  obtain @⟨script, b₀, outcome, b, -, -, -, -, hmoves, -⟩ := over_of_ok h
  have hb : b.Replayed := (Replayed.start screen).moves hmoves
  obtain ⟨hle, hturns⟩ := Replay.endedTurns hb
  have hturn : b.state.currentTurn - 1 + 1 = b.state.currentTurn := Nat.sub_add_cancel hle
  have hevents : ((b.final outcome).report outcome script.warnings).events =
      b.journal.events ++ [.ended (b.state.currentTurn - 1 + 1) outcome] := by
    rw [hturn]
    exact b.final_events outcome
  refine ⟨?_, ?_, b.journal.events, hevents, Replay.not_ended hb rfl⟩
  · rw [hevents, Replay.ofEvents?_concat, hb, Option.bind_some, Replay.step?_ended rfl hturn]
    exact congrArg
      (fun turn => some (Replay.mk turn b.state.autoMode b.dispatched (some outcome))) hturn.symm
  · rw [hevents, List.filterMap_append, hturns]
    exact List.append_nil _

/-- Automation plays the first turn and gives way in the second. -/
theorem report_replayed_auto :
    let screen := Screen.ofScenario
      { visible := ["attack", "full_auto"]
        rules := [{ onClick := "attack", nth := some 2, shows := ["loot_collected"] }] }
    ∃ report, (run {} 10 ["turn 1:", "enablefullauto", "turn 3:"] screen).result = .ok report ∧
      Replay.ofEvents? report.events = some ⟨3, .manual, 1, some .lootCollected⟩ ∧
      report.events.filterMap Event.endedTurn? = [1, 2] := by
  intro screen
  have h : (run {} 10 ["turn 1:", "enablefullauto", "turn 3:"] screen).result = .ok
      { outcome := .lootCollected
        turnsCompleted := 2
        commandsDispatched := 1
        autoMode := .manual
        elapsed := .ofSeconds 34
        warnings := []
        events := [.turnStarted 1, .dispatched 1 (.enableAuto .full),
          .autoModeChanged .manual .fullAuto, .turnEnded 1, .autoModeChanged .fullAuto .manual,
          .turnEnded 2, .ended 3 .lootCollected] } := by decide +kernel
  obtain ⟨hreplay, hturns, -⟩ := report_replayed h
  exact ⟨_, h, hreplay, hturns⟩

end Fight
end BattlePilot
