import BattlePilot.Proofs.Fight.ConductedCommands

/-! Turns that were submitted. While automation stays off, a turn is only counted once it was
submitted or skipped by a click, or once the attack button was sought in vain: the end of a turn
does not ask whether the button was there. -/

namespace BattlePilot

namespace Entry

theorem endsTurn_of_submits {e : Entry} (h : e.submits = true) : e.endsTurn = false := by
  cases e with
  | call => rfl
  | event => cases h

theorem endsTurn_of_misses {e : Entry} (h : e.misses name = true) : e.endsTurn = false := by
  cases e with
  | call => rfl
  | event => cases h

end Entry

namespace Journal

/-- Whether the turn being played was submitted. -/
def submitted : Journal → Bool
  | [] => false
  | e :: j => !e.endsTurn && (e.submits || submitted j)

/-- Whether in the turn being played the attack button was sought in vain, ten times in a row. -/
def inVain (pause : Span) : Journal → Bool
  | [] => false
  | e :: j => !e.endsTurn && (sought "attack" pause 9 (e :: j) || inVain pause j)

/-- How many turns were counted that were not submitted, but for which the attack button was
sought in vain. -/
def turnsInVain (pause : Span) : Journal → Nat
  | [] => 0
  | e :: j =>
    turnsInVain pause j + if e.endsTurn && !submitted j && inVain pause j then 1 else 0

/-- The turn being played may be counted. -/
def Due (pause : Span) (j : Journal) : Prop := j.submitted = true ∨ j.inVain pause = true

/-- Whenever a turn was counted while automation had stayed off, it was due. -/
def Accounted (pause : Span) (j : Journal) : Prop :=
  ∀ later turn earlier, j = later ++ .event (.turnEnded turn) :: earlier →
    (∀ e ∈ earlier, e.changesMode = false) → Due pause earlier

variable {pause : Span} {j : Journal} {e : Entry}

theorem Due.of_submits (h : e.submits = true) : Due pause (e :: j) := by
  left
  rw [submitted, Entry.endsTurn_of_submits h, h]
  rfl

theorem Due.of_sought (h : j.sought "attack" pause 9 = true) : Due pause j := by
  right
  match j, h with
  | e :: e' :: j, h =>
    have he : e.misses "attack" = true := by
      simp only [sought, Bool.and_eq_true] at h
      exact h.1.1
    rw [inVain, Entry.endsTurn_of_misses he, h]
    rfl

theorem Due.cons (h : Due pause j) (he : e.endsTurn = false) : Due pause (e :: j) := by
  rcases h with h | h
  · left
    simp [submitted, he, h]
  · right
    simp [inVain, he, h]

namespace Accounted

theorem nil : Accounted pause [] := fun later _ _ h => by cases later <;> cases h

theorem append_right {later earlier : Journal} (h : Accounted pause (later ++ earlier)) :
    Accounted pause earlier := by
  intro later' turn before hj
  refine h (later ++ later') turn before ?_
  rw [hj, List.append_assoc]

theorem cons (h : Accounted pause j) (he : e.endsTurn = false) : Accounted pause (e :: j) := by
  intro later turn earlier hj
  cases later with
  | nil =>
    cases hj
    cases he
  | cons e' later =>
    cases hj
    exact h later turn earlier rfl

theorem turnEnded (h : Accounted pause j)
    (hdue : (∀ e ∈ j, e.changesMode = false) → Due pause j) (turn : Nat) :
    Accounted pause (.event (.turnEnded turn) :: j) := by
  intro later turn' earlier hj
  cases later with
  | nil =>
    cases hj
    exact hdue
  | cons e later =>
    cases hj
    exact h later turn' earlier rfl

/-- Turns are counted against clicks one by one; one that is submitted is counted ahead. -/
theorem turns_le (h : Accounted pause j) (hj : ∀ e ∈ j, e.changesMode = false) :
    j.countP Entry.endsTurn + (if j.submitted then 1 else 0) ≤
      j.countP Entry.submits + j.turnsInVain pause := by
  induction j with
  | nil => exact Nat.le_refl _
  | cons e j ih =>
    rw [List.forall_mem_cons] at hj
    have hcons : Accounted pause ([e] ++ j) := h
    have ih := ih hcons.append_right hj.2
    rw [List.countP_cons, List.countP_cons, submitted, turnsInVain]
    cases hends : e.endsTurn with
    | true =>
      have hdue : Due pause j := by
        match e, hends with
        | .event (.turnEnded turn), _ => exact h [] turn j rfl hj.2
      have hsubmits : e.submits = false := by
        cases hs : e.submits with
        | true => rw [Entry.endsTurn_of_submits hs] at hends; cases hends
        | false => rfl
      cases hsub : submitted j with
      | true =>
        rw [hsub] at ih
        simp only [hsubmits, Bool.not_true, Bool.false_and, Bool.and_false] at ih ⊢
        omega
      | false =>
        have hvain : inVain pause j = true := hdue.resolve_left (by simp [hsub])
        rw [hsub] at ih
        simp only [hsubmits, hvain, Bool.not_true, Bool.not_false, Bool.false_and,
          Bool.and_self] at ih ⊢
        omega
    | false =>
      cases hsubmits : e.submits with
      | true =>
        simp only [Bool.not_false, Bool.false_and, Bool.true_and, Bool.true_or]
        omega
      | false =>
        simp only [Bool.not_false, Bool.false_and, Bool.true_and, Bool.false_or]
        exact ih

end Accounted
end Journal

namespace Battle

/-- The turns of a fight are accounted for; while automation has stayed off, nobody but the pilot
plays, and a turn that counts as submitted is due. -/
structure Accounts (pause : Span) (p : Stage) (b : Battle) : Prop where
  accounted : b.journal.Accounted pause
  manual : (∀ e ∈ b.journal, e.changesMode = false) → b.state.autoMode = .manual
  notLapsed : (∀ e ∈ b.journal, e.changesMode = false) → ∀ k, p ≠ .lapsed k
  due : (∀ e ∈ b.journal, e.changesMode = false) → p = .submitted → b.journal.Due pause

namespace Accounts

variable {pause : Span} {p : Stage} {b b' : Battle} {e : Entry}

/-- One more entry, which counts no turn. -/
theorem entry (h : Accounts pause p b) (he : e.endsTurn = false)
    (hj : b'.journal = e :: b.journal) (hm : b'.state.autoMode = b.state.autoMode) :
    Accounts pause p b' := by
  have earlier (hb : ∀ e ∈ b'.journal, e.changesMode = false) :
      ∀ e ∈ b.journal, e.changesMode = false := by
    rw [hj, List.forall_mem_cons] at hb
    exact hb.2
  constructor
  · rw [hj]
    exact h.accounted.cons he
  · intro hb
    rw [hm]
    exact h.manual (earlier hb)
  · exact fun hb => h.notLapsed (earlier hb)
  · intro hb hp
    rw [hj]
    exact (h.due (earlier hb) hp).cons he

/-- The mode is told to change. -/
theorem changed (h : Accounts pause p b)
    (hj : b'.journal = .event (.autoModeChanged before after) :: b.journal) :
    Accounts pause q b' := by
  have never (hb : ∀ e ∈ b'.journal, e.changesMode = false) : False := by
    rw [hj, List.forall_mem_cons] at hb
    cases hb.1
  constructor
  · rw [hj]
    exact h.accounted.cons rfl
  · exact fun hb => (never hb).elim
  · exact fun hb => (never hb).elim
  · exact fun hb => (never hb).elim

theorem kept (h : Accounts pause p b) (hj : b'.journal = b.journal)
    (hm : b'.state.autoMode = b.state.autoMode) : Accounts pause p b' := by
  obtain ⟨h₁, h₂, h₃, h₄⟩ := h
  constructor <;> rw [hj]
  · exact h₁
  · rw [hm]
    exact h₂
  · exact h₃
  · exact h₄

/-- At another stage nothing is due, unless there automation left the turn alone. -/
theorem goOn (h : Accounts pause p b) (hq : q ≠ .submitted) (hl : ∀ k, q ≠ .lapsed k) :
    Accounts pause q b :=
  ⟨h.accounted, h.manual, fun _ => hl, fun _ h => absurd h hq⟩

theorem turnEnded (h : Accounts pause .submitted b)
    (hj : b'.journal = .event (.turnEnded turn) :: b.journal)
    (hm : b'.state.autoMode = b.state.autoMode) (hq : q ≠ .submitted) (hl : ∀ k, q ≠ .lapsed k) :
    Accounts pause q b' := by
  constructor
  · rw [hj]
    exact h.accounted.turnEnded (fun hb => h.due hb rfl) turn
  · intro hb
    rw [hj, List.forall_mem_cons] at hb
    rw [hm]
    exact h.manual hb.2
  · exact fun _ => hl
  · exact fun _ h => absurd h hq

/-- Where automation left the turn alone, it did not stay off. -/
theorem lapsed (h : Accounts pause (.lapsed k) b) (q : Stage) : Accounts pause q b where
  accounted := h.accounted
  manual := h.manual
  notLapsed hb := absurd rfl (h.notLapsed hb k)
  due hb := absurd rfl (h.notLapsed hb k)

end Accounts

theorem Conduct.accounts (h : Conduct F t p b) :
    Accounts F.cfg.retry.pollInterval p b := by
  induction h with
  | start => exact ⟨.nil, fun _ => rfl, fun _ => nofun, fun _ => nofun⟩
  | asked h _ ih =>
    cases h with
    | mk => exact ih.entry rfl rfl rfl
  | setback _ _ ih | reloaded _ _ ih => exact ih.entry rfl rfl rfl
  | anchored _ _ ih | concluded _ _ ih => exact ih.kept rfl rfl
  | fallen _ h _ ih =>
    cases h with
    | wiped => exact ih.entry rfl rfl rfl
    | @backedOut answer s _ =>
      refine Accounts.entry (b := Battle.answered _ (.input .home) answer s) ?_ rfl rfl rfl
      exact ih.entry rfl rfl rfl
  | submitted h _ ih =>
    refine ⟨ih.accounted, ih.manual, fun _ => nofun, fun hb _ => ?_⟩
    cases h with
    | clicked hj he =>
      rw [hj]
      exact .of_submits he
    | inVain h => exact .of_sought h
    | automatic ha =>
      rw [ih.manual hb] at ha
      cases ha
  | lapsed hm _ _ ih =>
    refine ⟨ih.accounted, ih.manual, fun hb => ?_, fun _ => nofun⟩
    rw [ih.manual hb] at hm
    cases hm
  | struck _ _ ih => exact Accounts.entry (ih.lapsed _) rfl rfl rfl
  | resubmitted _ ih => exact ih.lapsed _
  | gaveUp _ ih => exact ih.goOn nofun nofun
  | turnEnded _ h _ ih =>
    cases h with
    | turnEnded => exact ih.turnEnded rfl rfl nofun nofun
  | overran _ _ ih => exact ih.turnEnded rfl rfl nofun nofun
  | began _ _ _ ih => exact Accounts.kept (ih.goOn nofun nofun) rfl rfl
  | enabled _ _ h _ ih =>
    cases h with
    | enabled => exact ih.changed rfl
  | refused _ _ _ ih => exact Accounts.entry (ih.goOn nofun nofun) rfl rfl rfl
  | suspended _ _ h _ ih =>
    cases h with
    | suspended => exact ih.changed rfl
  | dispatched h _ ih =>
    cases h with
    | dispatched => exact ih.entry rfl rfl rfl
    | left =>
      refine Accounts.entry (b := Battle.counted _ .exit) ?_ rfl rfl rfl
      exact ih.entry rfl rfl rfl
  | attacksOn h _ ih =>
    cases h with
    | attacksOn => exact ih.kept rfl rfl
  | aimed _ h _ ih =>
    cases h with
    | aimed => exact ih.kept rfl rfl
  | opened h _ ih =>
    cases h with
    | opened => exact ih.entry rfl rfl rfl
  | skipped h _ ih =>
    cases h with
    | skipped => exact ih.entry rfl rfl rfl
  | done _ ih | entered _ _ _ ih | ranOut _ _ ih => exact ih

end Battle

namespace Fight
open Battle

variable {cfg : Settings} {rounds : Nat} {lines : List String} {screen : Screen}
variable {later earlier : Journal}

theorem FollowsConduct.accounted (h : FollowsConduct F j) :
    j.Accounted F.cfg.retry.pollInterval := by
  cases h with
  | halted h =>
    obtain ⟨t, p, h⟩ := h
    exact h.accounts.accounted
  | ended h =>
    obtain ⟨t, p, h⟩ := h
    exact h.accounts.accounted.cons rfl

/-- As long as automation stays off, each turn that is counted was submitted or skipped by a click,
or the attack button was sought in vain for it. At every point of a fight no more turns have been
counted than the buttons that do so were clicked, but for turns of the second kind. -/
theorem turns_submitted (hsplit : (run cfg rounds lines screen).journal = later ++ earlier)
    (hmode : ∀ e ∈ earlier, e.changesMode = false) :
    (∀ (since : Journal) (turn : Nat) (before : Journal),
      earlier = since ++ .event (.turnEnded turn) :: before →
      before.submitted = true ∨ before.inVain cfg.retry.pollInterval = true) ∧
    earlier.countP Entry.endsTurn ≤
      earlier.countP Entry.submits + earlier.turnsInVain cfg.retry.pollInterval := by
  obtain ⟨commands, hfollows, -⟩ := run_follows cfg rounds lines screen
  have haccounted := hfollows.accounted
  rw [hsplit] at haccounted
  have hearlier := haccounted.append_right
  constructor
  · intro since turn before hj
    refine hearlier since turn before hj fun e he => hmode e ?_
    rw [hj]
    exact List.mem_append_right _ (List.mem_cons_of_mem _ he)
  · exact Nat.le_trans (Nat.le_add_right _ _) (hearlier.turns_le hmode)

/-- Here the turn is submitted by hand. -/
theorem turns_submitted_by_hand :
    let screen := Screen.ofScenario
      { visible := ["attack"]
        rules := [{ onClick := "attack", shows := ["loot_collected"] }] }
    (∀ e ∈ (run {} 10 ["attack"] screen).journal, e.changesMode = false) ∧
    (∀ (since : Journal) (turn : Nat) (before : Journal),
      (run {} 10 ["attack"] screen).journal = since ++ .event (.turnEnded turn) :: before →
      before.submitted = true ∨ before.inVain ({} : Settings).retry.pollInterval = true) ∧
    (run {} 10 ["attack"] screen).journal.countP Entry.endsTurn ≤
      (run {} 10 ["attack"] screen).journal.countP Entry.submits +
        (run {} 10 ["attack"] screen).journal.turnsInVain
          ({} : Settings).retry.pollInterval := by
  intro screen
  have hmode : ∀ e ∈ (run {} 10 ["attack"] screen).journal, e.changesMode = false := by
    decide +kernel
  exact ⟨hmode, @turns_submitted {} 10 ["attack"] screen [] _ (List.nil_append _).symm hmode⟩

/-- The character is opened and the attack button is gone: nothing else is clicked, and the turn is
counted for all that. -/
theorem turn_unsubmitted :
    let screen := Screen.ofScenario
      { visible := ["attack"]
        rules := [{ onClick := "character1", hides := ["attack"], shows := ["loot_collected"] }] }
    let f := run {} 10 ["character1.attack"] screen
    f.result = .ok
      { outcome := .lootCollected
        turnsCompleted := 1
        commandsDispatched := 1
        autoMode := .manual
        elapsed := .ofMillis 12500
        warnings := []
        events := [.dispatched 1 (.character 1 [.attack]), .turnEnded 1,
          .ended 2 .lootCollected] } ∧
      (∀ e ∈ f.journal, e.changesMode = false) ∧ f.journal.countP Entry.endsTurn = 1 ∧
      f.screen.clickedLabels = ["character1"] := by
  refine ⟨?_, ?_, ?_, ?_⟩
  · decide +kernel
  · decide +kernel
  · decide +kernel
  · decide +kernel

end Fight
end BattlePilot
