import BattlePilot.Proofs.Fight.Leaving
import BattlePilot.Proofs.Play.Since

/-! The outcome of a report is borne out by where the battle ended: by its clock, by its events, and
by what the screen shows or showed. -/

namespace BattlePilot

namespace Battle

/-- What was asked of the screen is in the journal, and the screen is as that left it. -/
theorem Asks.calls (h : Asks A b b') :
    ∃ later, b'.journal.calls = b.journal.calls ++ later ∧ (∀ c ∈ later, A c.2.1) ∧
      b.screen.performAll? (later.map (·.2.1)) = some b'.screen := by
  obtain ⟨new, hnew, hasked⟩ := h.queried
  refine ⟨Journal.calls new, by rw [hnew.journal, Journal.calls_append], ?_, hnew.screen⟩
  intro c hc
  obtain ⟨e, he, hcall⟩ := List.mem_filterMap.1 hc
  cases e with
  | call =>
    cases hcall
    exact hasked _ (List.mem_reverse.1 he)
  | event => cases hcall

theorem Finds.inTime (h : Finds cfg found b) (hne : found ≠ some .timeExceeded) :
    Play.timeExceeded cfg b = false := by
  cases h with
  | timeExceeded => exact absurd rfl hne
  | left ht => exact ht
  | noLoot ho | battleConcluded ho | expGained ho | lootCollected ho | nothing ho => exact ho.inTime

theorem Finds.elapsed_lt (h : Finds cfg found b) (hne : found ≠ some .timeExceeded)
    (hbudget : cfg.timeBudget? = some budget) : (Play.elapsed b).nanos < budget.nanos := by
  have ht := h.inTime hne
  rwa [Play.timeExceeded, hbudget, decide_eq_false_iff_not, Nat.not_le] at ht

theorem Finds.stays (h : Finds cfg (some outcome) b)
    (ho : outcome = .expGained ∨ outcome = .lootCollected) : b.state.retreated = false := by
  cases h with
  | expGained hopen | lootCollected hopen => exact hopen.stays
  | _ => rcases ho with ho | ho <;> cases ho

/-- Only a battle that concluded may end by anything but the last look. -/
theorem Ends.finds {b₀ b : Battle} (h : Ends cfg commands b₀ outcome b)
    (hne : outcome ≠ .battleConcluded) : Finds cfg (some outcome) b := by
  rcases h.verdict_or with h | ⟨h, -⟩
  · cases h with
    | found hf => exact hf
    | dismissed => exact absurd rfl hne
  · exact absurd h hne

/-- Time that is used up is the time that the settings give a raid. -/
theorem timeExceeded_iff {cfg : Settings} {b : Battle} :
    Play.timeExceeded cfg b = true ↔ cfg.farmingMode = .raid ∧ cfg.raid.autoExit = true ∧
      (Span.ofSeconds cfg.raid.timeAllowedSecs).nanos ≤ (Play.elapsed b).nanos := by
  unfold Play.timeExceeded Settings.timeBudget?
  by_cases h : cfg.farmingMode = .raid ∧ cfg.raid.autoExit = true
  · simp [h]
  · simp only [if_neg h, Bool.false_eq_true, false_iff]
    exact fun ⟨hmode, hexit, _⟩ => h ⟨hmode, hexit⟩

end Battle

namespace Fight
open Battle

/-- A battle that concluded of itself: the screen showed it at the last look for an end, and only
the reload came after that. -/
def ConcludedItself (f : Fight) : Prop :=
  ∃ (s : Screen) (earlier later : List (Span × ScreenOp × ScreenAnswer)),
    s.isVisible "battle_concluded" = true ∧ s.isVisible "no_loot" = false ∧
    f.journal.calls = earlier ++ (s.now, .confirm "no_loot", .truth false) ::
      (s.now, .confirm "battle_concluded", .truth true) :: later ∧
    (∀ c ∈ later, c.2.1.Presses "reload") ∧ s.performAll? (later.map (·.2.1)) = some f.screen

/-- A raid that moved on: once the commands had been played, `next` was clicked, and nothing
happened after that. -/
def MovedOn (cfg : Settings) (commands : List Command) (screen : Screen) (f : Fight) : Prop :=
  cfg.farmingMode = .raid ∧ ∃ b later clock p answer, after? cfg screen commands = some b ∧
    f.journal.calls = b.journal.calls ++ later ++ [(clock, .input (.click "next" p), answer)] ∧
    ∃ turn, f.journal.events = b.journal.events ++ [.ended turn .battleConcluded]

structure Justified (cfg : Settings) (commands : List Command) (screen : Screen) (f : Fight)
    (r : Report) : Prop where
  stays : r.outcome ≠ .retreated
  timeExceeded : r.outcome = .timeExceeded → cfg.farmingMode = .raid ∧ cfg.raid.autoExit = true ∧
    (Span.ofSeconds cfg.raid.timeAllowedSecs).nanos ≤ r.elapsed.nanos
  noLoot : r.outcome = .noLoot →
    (∃ e ∈ r.events, e.leaves = true) ∨ f.screen.isVisible "no_loot" = true
  expGained : r.outcome = .expGained → f.screen.isVisible "exp_gained" = true ∧
    f.screen.isVisible "no_loot" = false ∧ f.screen.isVisible "battle_concluded" = false
  lootCollected : r.outcome = .lootCollected → f.screen.isVisible "loot_collected" = true ∧
    f.screen.isVisible "no_loot" = false ∧ f.screen.isVisible "battle_concluded" = false ∧
    f.screen.isVisible "exp_gained" = false
  gained : r.outcome = .expGained ∨ r.outcome = .lootCollected →
    ∀ e ∈ r.events, e.leaves = false
  inTime : r.outcome = .noLoot ∨ r.outcome = .expGained ∨ r.outcome = .lootCollected →
    ∀ budget, cfg.timeBudget? = some budget → r.elapsed.nanos < budget.nanos
  battleConcluded : r.outcome = .battleConcluded →
    f.ConcludedItself ∨ f.MovedOn cfg commands screen

variable {cfg : Settings} {rounds : Nat} {lines : List String} {screen : Screen} {report : Report}

theorem concludedItself {f : Fight} (hf : Finds cfg (some .battleConcluded) b)
    (hr : Asks (ScreenOp.Presses "reload") b b') (hj : f.journal.calls = b'.journal.calls)
    (hs : f.screen = b'.screen) : f.ConcludedItself := by
  cases hf with
  | battleConcluded _ hsaw =>
    obtain ⟨earlier, hentries⟩ := hsaw.entries
    obtain ⟨later, hcalls, hlater, hscreen⟩ := hr.calls
    refine ⟨b.screen, Journal.calls earlier, later, ?_, ?_, ?_, hlater, hs ▸ hscreen⟩
    · exact hsaw.shown ("battle_concluded", true) (by simp)
    · exact hsaw.shown ("no_loot", false) (by simp)
    · rw [hj, hcalls, hentries]
      simp

theorem movedOn {f : Fight} {b b₁ b₂ : Battle} (hr : cfg.farmingMode = .raid)
    (hafter : after? cfg screen commands = some b₁) (ha : Asks cfg.Light b₁ b₂)
    (hc : Play.Clicked "next" b₂ b)
    (hj : f.journal = (b.final .battleConcluded).journal) : f.MovedOn cfg commands screen := by
  have hevents : b.journal.events = b₁.journal.events := hc.asks.events.trans ha.events
  obtain ⟨b₃, p, answer, s, hn, _, rfl⟩ := hc
  obtain ⟨looks, hlooks, -⟩ := ha.calls
  obtain ⟨presses, hpresses, -⟩ := hn.calls
  refine ⟨hr, b₁, looks ++ presses, s.now, p, answer, hafter, ?_, ?_⟩
  · rw [hj, ← List.append_assoc, ← hlooks, ← hpresses]
    exact (Journal.calls_event ..).trans (Journal.calls_call ..)
  · rw [hj, final_events, hevents]
    exact ⟨_, rfl⟩

theorem outcome_justified (h : (run cfg rounds lines screen).result = .ok report) :
    ∃ script, Script.parse lines = .ok script ∧
      Justified cfg script.commands screen (run cfg rounds lines screen) report := by
  obtain @⟨script, b₀, outcome, b, hscript, hanchor, -, hend, hmoves, hrun⟩ := over_of_ok h
  have hleaving : Leaving cfg b := (Leaving.start screen).moves hmoves
  have hfinal : Leaving cfg (b.final outcome) := hleaving.final_of outcome
  have finds {o : Outcome} (ho : outcome = o) (hne : o ≠ .battleConcluded) :
      Finds cfg (some o) b := by
    subst ho
    exact hend.finds hne
  have hjournal : (run cfg rounds lines screen).journal = (b.final outcome).journal := by
    rw [hrun]
    rfl
  have hscreen : (run cfg rounds lines screen).screen = b.screen := by
    rw [hrun]
    rfl
  refine ⟨script, hscript, ?_⟩
  constructor
  case stays =>
    intro ho
    cases finds ho nofun
  case timeExceeded =>
    intro ho
    cases finds ho nofun with
    | timeExceeded ht => exact timeExceeded_iff.1 ht
  case noLoot =>
    intro ho
    rw [hscreen]
    cases finds ho nofun with
    | left _ hl => exact .inl (hfinal.of_left hl)
    | noLoot _ hs => exact .inr (hs.shown ("no_loot", true) (by simp))
  case expGained =>
    intro ho
    rw [hscreen]
    cases finds ho nofun with
    | expGained _ hs =>
      exact ⟨hs.shown ("exp_gained", true) (by simp), hs.shown ("no_loot", false) (by simp),
        hs.shown ("battle_concluded", false) (by simp)⟩
  case lootCollected =>
    intro ho
    rw [hscreen]
    cases finds ho nofun with
    | lootCollected _ hs =>
      exact ⟨hs.shown ("loot_collected", true) (by simp), hs.shown ("no_loot", false) (by simp),
        hs.shown ("battle_concluded", false) (by simp), hs.shown ("exp_gained", false) (by simp)⟩
  case gained =>
    intro ho
    change outcome = .expGained ∨ outcome = .lootCollected at ho
    have hne : outcome ≠ .battleConcluded := by rcases ho with rfl | rfl <;> nofun
    exact hfinal.of_stays ((hend.finds hne).stays ho)
  case inTime =>
    intro ho budget hbudget
    rcases ho with ho | ho | ho <;> exact (finds ho nofun).elapsed_lt nofun hbudget
  case battleConcluded =>
    intro ho
    rcases hend.verdict_or with hv | ⟨rfl, hmode, b₁, b₂, hs, ha, -, hc⟩
    · cases hv with
      | found _ hne => exact absurd ho hne
      | dismissed hf hr =>
        refine .inl (concludedItself hf hr ?_ hscreen)
        rw [hjournal]
        exact Journal.calls_event ..
    · exact .inr (movedOn hmode ((after?_eq_some hanchor).2 hs) ha hc hjournal)

/-- A raid that shows the way to the next battle once its script has run out. -/
theorem outcome_justified_raid :
    let cfg : Settings := { farmingMode := .raid }
    let screen := Screen.ofScenario { visible := ["attack", "next"] }
    ∃ report script, (run cfg 10 ["turn 1:"] screen).result = .ok report ∧
      Script.parse ["turn 1:"] = .ok script ∧
      Justified cfg script.commands screen (run cfg 10 ["turn 1:"] screen) report := by
  intro cfg screen
  have h : (run cfg 10 ["turn 1:"] screen).result = .ok
      { outcome := .battleConcluded
        turnsCompleted := 0
        commandsDispatched := 0
        autoMode := .manual
        elapsed := .zero
        warnings := []
        events := [.turnStarted 1, .ended 1 .battleConcluded] } := by decide +kernel
  obtain ⟨script, hscript, hjustified⟩ := outcome_justified h
  exact ⟨_, script, h, hscript, hjustified⟩

end Fight
end BattlePilot
