import BattlePilot.Proofs.Fight.Over
import BattlePilot.Proofs.Play.OrderedCommands

/-! Attacks between turns. While the script is played, the attack button is clicked once at most
between two turns that are counted, and once more for each attempt at automation that fails: such
an attempt may click it to make a control show, and no turn is counted for that. -/

namespace BattlePilot

namespace Entry

/-- Whether the attack button is clicked. -/
def strikes : Entry → Bool
  | call _ op _ => op.strikes
  | event _ => false

/-- Whether automation could not be turned on. -/
def refuses : Entry → Bool
  | event (.recovered _ .autoUnavailable) => true
  | _ => false

/-- Whether a turn is counted or the mode changes. -/
def divides : Entry → Bool
  | event (.turnEnded _) | event (.autoModeChanged ..) => true
  | _ => false

theorem Asks.not_strikes {e : Entry} {A : ScreenOp → Prop} (h : e.Asks A)
    (hA : ∀ op, A op → op.strikes = false) : e.strikes = false := by
  cases e with
  | call clock op answer => exact hA op h
  | event e => cases h

end Entry

namespace Journal

/-- The attack button was clicked once at most more often than automation was refused. -/
def Spaced (excess : Nat) (window : Journal) : Prop :=
  (∀ e ∈ window, e.divides = false) →
    window.countP Entry.strikes ≤ window.countP Entry.refuses + excess

/-- Any stretch of the journal is spaced, and the newest ones are so up to `pending` attacks. -/
structure Counted (pending : Nat) (j : Journal) : Prop where
  recent : ∀ window earlier, j = window ++ earlier → Spaced pending window
  any : ∀ later window earlier, j = later ++ window ++ earlier → Spaced 1 window

theorem Spaced.nil : Spaced excess [] := fun _ => Nat.zero_le _

theorem Spaced.mono {window : Journal} (h : Spaced m window) (hmn : m ≤ n) : Spaced n window :=
  fun hd => Nat.le_trans (h hd) (Nat.add_le_add_left hmn _)

namespace Counted

variable {j new : Journal} {e : Entry}

theorem nil : Counted 0 [] where
  recent window earlier h := by
    obtain ⟨rfl, -⟩ := List.append_eq_nil_iff.1 h.symm
    exact .nil
  any later window earlier h := by
    obtain ⟨hlater, -⟩ := List.append_eq_nil_iff.1 h.symm
    obtain ⟨-, rfl⟩ := List.append_eq_nil_iff.1 hlater
    exact .nil

theorem mono (h : Counted m j) (hmn : m ≤ n) : Counted n j :=
  ⟨fun window earlier hj => (h.recent window earlier hj).mono hmn, h.any⟩

/-- One more entry, which divides the stretches or is made up for. -/
theorem cons (h : Counted m j) (hn : n ≤ 1)
    (he : e.divides = true ∨
      (if e.strikes then 1 else 0) + m ≤ (if e.refuses then 1 else 0) + n) :
    Counted n (e :: j) := by
  have recent : ∀ window earlier, e :: j = window ++ earlier → Spaced n window := by
    intro window earlier hj hd
    cases window with
    | nil => exact Nat.zero_le _
    | cons e' window =>
      rw [List.cons_append, List.cons.injEq] at hj
      obtain ⟨rfl, hj⟩ := hj
      rw [List.forall_mem_cons] at hd
      have hwindow := h.recent window earlier hj hd.2
      rcases he with he | he
      · rw [he] at hd
        cases hd.1
      · rw [List.countP_cons, List.countP_cons]
        omega
  refine ⟨recent, fun later window earlier hj => ?_⟩
  cases later with
  | nil => exact (recent window earlier hj).mono hn
  | cons e' later =>
    rw [List.cons_append, List.cons_append, List.cons.injEq] at hj
    exact h.any later window earlier hj.2

/-- Entries that do not strike. -/
theorem append (h : Counted m j) (hm : m ≤ 1) (hnew : ∀ e ∈ new, e.strikes = false) :
    Counted m (new ++ j) := by
  induction new with
  | nil => exact h
  | cons e new ih =>
    rw [List.forall_mem_cons] at hnew
    refine (ih hnew.2).cons hm (.inr ?_)
    rw [hnew.1]
    simp

end Counted
end Journal

/-- How many attacks may not be counted yet. -/
def Phase.pending : Phase → Nat
  | struck => 1
  | _ => 0

theorem Phase.pending_le (p : Phase) : p.pending ≤ 1 := by
  cases p <;> decide

theorem Journal.ofLook_not_strikes (clock : Span) (answers : List (String × Bool)) :
    ∀ e ∈ ofLook clock answers, e.strikes = false := by
  intro e he
  obtain ⟨a, -, rfl⟩ := List.mem_map.1 he
  rfl

theorem Ordered.counted (h : Ordered .scripted [] p j) : Journal.Counted p.pending j := by
  induction h with
  | start => exact .nil
  | ready _ ih => exact ih.mono (Nat.zero_le _)
  | gaveUp hg => cases hg
  | @asked op p j clock answer hop _ _ ih =>
    have he : (Entry.call clock op answer).strikes = false := hop
    refine ih.cons p.pending_le (.inr ?_)
    rw [he]
    simp
  | remarked _ _ _ ih =>
    refine ih.cons (Phase.pending_le _) (.inr ?_)
    simp [Entry.strikes]
  | opened _ _ ih => exact ih.cons (Nat.zero_le _) (.inr (Nat.le_refl _))
  | attacked _ ih => exact ih.cons (Nat.le_refl _) (.inr (Nat.le_refl _))
  | @told j e he _ ih =>
    refine ih.cons (Nat.zero_le _) ?_
    cases e with
    | autoModeChanged => exact .inl rfl
    | recovered turn s =>
      cases s with
      | autoUnavailable => exact .inr (Nat.le_refl _)
      | _ => cases he
    | _ => cases he
  | turnEnded _ ih => exact ih.cons (Nat.zero_le _) (.inl rfl)
  | looked _ _ ih => exact ih.append (Nat.zero_le _) (Journal.ofLook_not_strikes _ _)
  | dispatched _ _ ih =>
    exact (ih.append (Nat.zero_le _) (Journal.ofLook_not_strikes _ _)).cons (Nat.zero_le _)
      (.inr (Nat.le_refl _))

theorem Dismissal.not_strikes (h : Dismissal d) : ∀ e ∈ d, e.strikes = false := by
  have looks_asks {looks : Journal} (h : ∀ e ∈ looks, e.Asks (ScreenOp.Seeks "reload")) :
      ∀ e ∈ looks, e.strikes = false :=
    fun e he => (h e he).not_strikes fun _ => ScreenOp.Seeks.not_strikes
  cases h with
  | missed h => exact looks_asks h
  | clicked h => exact List.forall_mem_cons.2 ⟨rfl, looks_asks h⟩

theorem EndFound.counted (h : j.Counted 0) (hf : EndFound j halt j') : j'.Counted 0 := by
  cases hf with
  | ended => exact h.append (Nat.zero_le _) (Journal.ofLook_not_strikes _ _)
  | @dismissed answers d halt clock _ hd =>
    have hlook := h.append (Nat.zero_le _) (Journal.ofLook_not_strikes clock answers)
    rw [List.append_assoc]
    exact hlook.append (Nat.zero_le _) hd.not_strikes

theorem Stops.counted (h : Stops .scripted [] halt j) : Journal.Counted 1 j := by
  cases h with
  | @overflow p j h => exact h.counted.mono p.pending_le
  | unfinished hg | movedOn hg => cases hg
  | found h hf => exact (hf.counted h.counted).mono (Nat.zero_le _)

/-! ### The part of a fight that the script plays -/

namespace Play

/-- What plays on after the script only adds to the journal. -/
theorem drive_grows (cfg : Settings) (rounds : Nat) (commands : List Command) (b₀ : Battle) :
    ∃ later, ((drive cfg rounds commands).run.run b₀).2.journal =
      later ++ ((steps cfg commands).run.run b₀).2.journal := by
  have play : Orderly .full .free (playOn cfg rounds) fun _ => .free :=
    playOn.orderly cfg trivial rounds
  rw [drive, ExceptT.run_bind, StateT.run_bind]
  rcases (steps cfg commands).run.run b₀ with ⟨halt | _, b⟩
  · exact ⟨[], rfl⟩
  · rcases hr : (playOn cfg rounds).run.run b with ⟨halt | never, b'⟩
    · obtain ⟨later, hj⟩ := (play.grows b).of_error rfl hr
      refine ⟨later, ?_⟩
      rw [← hj]
      exact congrArg (·.2.journal) hr
    · cases never

end Play

namespace Fight

/-- The battle where the commands of a script have been played, or where it halted before that. -/
def scripted (cfg : Settings) (screen : Screen) (commands : List Command) : Battle :=
  match (Play.findAnchor cfg).run.run (.start screen) with
  | (.ok true, b) => ((Play.steps cfg commands).run.run b).2
  | (_, b) => b

variable {cfg : Settings} {rounds : Nat} {lines : List String} {screen : Screen} {script : Script}

theorem scripted_counted (cfg : Settings) (screen : Screen) (commands : List Command) :
    (scripted cfg screen commands).journal.Counted 1 := by
  have hanchor : Play.Orderly .scripted .free (Play.findAnchor cfg) fun _ => .free :=
    .quiet rfl (Play.findAnchor.quiet cfg)
  have hsteps : Play.Orderly .scripted .free (Play.steps cfg commands) fun _ => .free :=
    Play.steps.orderly cfg trivial commands
  have counted {b : Battle} (h : Ordered .scripted [] .free b.journal) : b.journal.Counted 1 :=
    h.counted.mono (Nat.zero_le _)
  unfold scripted
  match h : (Play.findAnchor cfg).run.run (.start screen) with
  | (.error halt, b) => exact ((hanchor []).of_error .start h).counted
  | (.ok false, b) => exact counted ((hanchor []).of_ok .start h)
  | (.ok true, b₀) =>
    have h₀ : Ordered .scripted [] .free b₀.journal := (hanchor []).of_ok .start h
    match h : (Play.steps cfg commands).run.run b₀ with
    | (.error halt, b) =>
      simp only [h]
      exact ((hsteps []).of_error h₀ h).counted
    | (.ok (), b) =>
      simp only [h]
      exact counted ((hsteps []).of_ok h₀ h)

theorem ofScript_grows (cfg : Settings) (rounds : Nat) (script : Script) (screen : Screen) :
    ∃ later, (ofScript cfg rounds script screen).journal =
      later ++ (scripted cfg screen script.commands).journal := by
  unfold ofScript scripted
  match (Play.findAnchor cfg).run.run (.start screen) with
  | (.error halt, b) => exact stopped_grows b script.warnings halt
  | (.ok false, b) => exact ⟨[], rfl⟩
  | (.ok true, b₀) =>
    obtain ⟨played, hplayed⟩ := Play.drive_grows cfg rounds script.commands b₀
    match h : (Play.drive cfg rounds script.commands).run.run b₀ with
    | (.ok never, _) => exact nomatch never
    | (.error halt, b) =>
      obtain ⟨noted, hnoted⟩ := stopped_grows b script.warnings halt
      simp only [h] at hplayed ⊢
      exact ⟨noted ++ played, by rw [hnoted, hplayed, List.append_assoc]⟩

/-- While the script is played, the attack button is clicked once at most between two turns that
are counted, and once more for each attempt at automation that fails. -/
theorem attacks_spaced (hfault : cfg.fault? = none) (hscript : Script.parse lines = .ok script) :
    (∃ later, (run cfg rounds lines screen).journal =
      later ++ (scripted cfg screen script.commands).journal) ∧
    ∀ later window earlier, (scripted cfg screen script.commands).journal =
      later ++ window ++ earlier → window.Spaced 1 := by
  refine ⟨?_, (scripted_counted cfg screen script.commands).any⟩
  have hrun : run cfg rounds lines screen = ofScript cfg rounds script screen := by
    simp only [run, hfault, hscript]
  rw [hrun]
  exact ofScript_grows cfg rounds script screen

/-- Here automation cannot be turned on, and the attempt clicks the attack button. -/
theorem attacks_spaced_refused :
    let screen := Screen.ofScenario
      { visible := ["attack"]
        rules := [{ onClick := "attack", nth := some 2, shows := ["loot_collected"] }] }
    let commands := [.enableAuto .full, .endTurn]
    (∃ later, (run {} 10 ["enablefullauto", "end"] screen).journal =
      later ++ (scripted {} screen commands).journal) ∧
    ∀ later window earlier, (scripted {} screen commands).journal = later ++ window ++ earlier →
      window.Spaced 1 := by
  intro screen commands
  have hscript : Script.parse ["enablefullauto", "end"] = .ok ⟨commands, []⟩ := by decide +kernel
  have hfault : ({} : Settings).fault? = none := by decide +kernel
  exact @attacks_spaced {} 10 ["enablefullauto", "end"] screen ⟨commands, []⟩ hfault hscript

/-- An attempt at automation that fails has submitted the turn, which is submitted again by the
end of the turn: the attack button is clicked twice before the first turn is counted. -/
theorem attacked_twice :
    let screen := Screen.ofScenario
      { visible := ["attack"]
        rules := [{ onClick := "attack", nth := some 2, shows := ["loot_collected"] }] }
    let commands := [.enableAuto .full, .endTurn]
    Script.parse ["enablefullauto", "end"] = .ok ⟨commands, []⟩ ∧
    (run {} 10 ["enablefullauto", "end"] screen).result = .ok
      { outcome := .lootCollected
        turnsCompleted := 1
        commandsDispatched := 2
        autoMode := .manual
        elapsed := .ofSeconds 5
        warnings := []
        events := [.dispatched 1 (.enableAuto .full), .recovered 1 .autoUnavailable,
          .dispatched 1 .endTurn, .turnEnded 1, .ended 2 .lootCollected] } ∧
    ∃ later window, (scripted {} screen commands).journal =
        later ++ .event (.turnEnded 1) :: window ∧
      (∀ e ∈ window, e.divides = false) ∧ window.countP Entry.strikes = 2 := by
  intro screen commands
  let journal := (scripted {} screen commands).journal
  have hsplit : journal = journal.take 4 ++ .event (.turnEnded 1) :: journal.drop 5 := by
    decide +kernel
  refine ⟨by decide +kernel, by decide +kernel, _, _, hsplit, ?_, ?_⟩
  · decide +kernel
  · decide +kernel

end Fight
end BattlePilot
