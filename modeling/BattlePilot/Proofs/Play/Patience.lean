import BattlePilot.Battle.Fight
import BattlePilot.Proofs.Play.Sampling
import BattlePilot.Proofs.Screen.Looking

/-! Looking with patience. A search sees the screen as so many pauses make it, ends with the first
sample that shows the element, does not pause after its last look, and leaves no trace in the battle
but the questions that it asked. -/

namespace BattlePilot

namespace Screen

theorem performAll?_sleep (s : Screen) (pause : Span) (k : Nat) :
    s.performAll? (List.replicate (k + 1) (.sleep pause)) =
      (s.performAll? (List.replicate k (.sleep pause))).bind (·.sleep? pause) := by
  rw [List.replicate_succ', performAll?_concat]
  congr 1
  funext s₁
  cases h : s₁.sleep? pause <;> simp [perform?, h]

/-- The samples of a screen on which no clock rule is due are what sleeps in a row make of it. -/
theorem Settled.sample?_eq {s : Screen} (h : s.Settled) (pause : Span) (k : Nat) :
    s.sample? pause k = s.performAll? (List.replicate k (.sleep pause)) := by
  induction k with
  | zero => exact congrArg some h.settle_eq
  | succ k ih => rw [sample?, ih, performAll?_sleep]

end Screen

namespace Battle

variable {b₀ b : Battle} {look : ScreenOp} {pause : Span} {name : String} {tries k : Nat}
  {found : Screen → α} {missed : α}

/-- Nothing was received by the screen and nothing noted since `b₀`; the battle is as it was but
for what the screen shows and was asked. -/
structure Untouched (b₀ b : Battle) : Prop where
  kept : b = { b₀ with screen := b.screen, journal := b.journal }
  events : b.journal.events = b₀.journal.events
  inputs : b.screen.inputs = b₀.screen.inputs

theorem Sampled.untouched (h : b₀.Sampled look pause name k b) : b₀.Untouched b := by
  obtain ⟨new, hnew, -⟩ := h.told
  refine ⟨hnew.kept, ?_, Screen.sample?_inputs h.sample⟩
  rw [hnew.journal, Journal.events_append, hnew.events, List.append_nil]

theorem SearchEnds.untouched {result : Except Halt α × Battle}
    (h : b₀.SearchEnds look pause name tries found missed result) : b₀.Untouched result.2 := by
  cases h with
  | found _ h | missed _ h | cutShort _ h => exact h.untouched

end Battle

namespace Play

variable (cfg : Settings)

/-- Whether it asks for a position or for an answer, a search on a screen that has come about by
any operations takes the screens after `0`, `1`, … sleeps of the poll interval, `max tries 1` of
them at most, and ends with the first that shows the element. If none does it ends with the last
one; only a clock that cannot hold the next sample cuts it short. It asks one look for each sample
and one sleep between two of them, and touches nothing. -/
theorem search_samples {scenario : Scenario} {ops : List ScreenOp} {b : Battle}
    (h : (Screen.ofScenario scenario).performAll? ops = some b.screen) (name : String)
    (tries : Nat) :
    let pause := cfg.retry.pollInterval
    (∀ k, b.screen.sample? pause k = b.screen.performAll? (List.replicate k (.sleep pause))) ∧
      b.SearchEnds (.find name) pause name (max tries 1) (fun s => some (s.position name)) none
        ((find cfg name tries).run.run b) ∧
      b.SearchEnds (.confirm name) pause name (max tries 1) (fun _ => true) false
        ((confirm cfg name tries).run.run b) ∧
      b.Untouched ((find cfg name tries).run.run b).2 ∧
      b.Untouched ((confirm cfg name tries).run.run b).2 := by
  have hfind := (find.searches cfg name tries b).result
  have hconfirm := (confirm.searches cfg name tries b).result
  exact ⟨(Screen.Punctual.performedAll h).settled.sample?_eq _, hfind, hconfirm, hfind.untouched,
    hconfirm.untouched⟩

/-- An element that a rule of the clock shows after a second, searched for from a tenth of a second
on: the third sample shows it. -/
theorem search_samples_third :
    let cfg : Settings := {}
    let scenario : Scenario :=
      { rules := [{ afterSecs := some (.finite false Binary64.one), shows := ["ok"] }] }
    ∃ b : Battle,
      (Screen.ofScenario scenario).performAll? [.sleep (.ofMillis 100)] = some b.screen ∧
      ((find cfg "ok" 5).run.run b).1 = .ok (some ⟨640, 480⟩) ∧
      ((find cfg "ok" 5).run.run b).2.screen.now = .ofMillis 1100 ∧
      b.SearchEnds (.find "ok") cfg.retry.pollInterval "ok" 5 (fun s => some (s.position "ok")) none
        ((find cfg "ok" 5).run.run b) ∧
      b.Untouched ((find cfg "ok" 5).run.run b).2 := by
  intro cfg scenario
  have hfound : ((Screen.ofScenario scenario).performAll? [.sleep (.ofMillis 100)]).any (fun s =>
      ((find cfg "ok" 5).run.run (.start s)).1 = .ok (some ⟨640, 480⟩) ∧
        ((find cfg "ok" 5).run.run (.start s)).2.screen.now = .ofMillis 1100) = true := by
    decide +kernel
  obtain ⟨s, hs, hfound⟩ := (Option.any_eq_true _ _).1 hfound
  obtain ⟨hanswer, hclock⟩ := of_decide_eq_true hfound
  obtain ⟨-, hends, -, huntouched, -⟩ := search_samples cfg (b := .start s) hs "ok" 5
  exact ⟨.start s, hs, hanswer, hclock, hends, huntouched⟩

end Play
end BattlePilot
