import BattlePilot.Proofs.Fight.Conduct
import BattlePilot.Proofs.Play.Sampling

/-! What searches leave in the journal: how often an end was looked for in a turn, and what was
sought in vain. -/

namespace BattlePilot

namespace Journal

theorem looksInTurn_le_cons {e : Entry} (h : e.endsTurn = false) (j : Journal) :
    j.looksInTurn ≤ looksInTurn (e :: j) := by
  have hone : ∀ e' ∈ [e], e'.endsTurn = false := by simpa using h
  exact looksInTurn_le_append hone j

/-- A look for an end that finds nothing is counted. -/
theorem looksInTurn_ofLook (ha : Answers none answers) (clock : Span) (j : Journal) :
    looksInTurn (ofLook clock answers ++ j) = j.looksInTurn + 1 := by
  cases ha
  simp [ofLook, looksInTurn, Entry.endsTurn, Entry.looksOn]

end Journal

namespace Battle

theorem Asides.looksInTurn_le (h : Asides W b b') :
    b.journal.looksInTurn ≤ b'.journal.looksInTurn := by
  induction h with
  | refl => exact Nat.le_refl _
  | tail _ h ih =>
    refine Nat.le_trans ih ?_
    cases h with
    | ask h =>
      cases h with
      | mk => exact Journal.looksInTurn_le_cons rfl _
    | setback | reloaded => exact Journal.looksInTurn_le_cons rfl _
    | aim => exact Nat.le_refl _

/-- A party that has fallen is noted as the last thing. -/
theorem Does.fallen_journal (h : Does cfg .fallen b b') :
    ∃ turn response, ∃ earlier : Journal,
      b'.journal = .event (.partyWiped turn response) :: earlier ∧
      b.journal.looksInTurn ≤ earlier.looksInTurn := by
  cases h with
  | wiped => exact ⟨_, _, _, rfl, Nat.le_refl _⟩
  | backedOut => exact ⟨_, _, _, rfl, Journal.looksInTurn_le_cons rfl _⟩

end Battle

namespace Play
open Battle Relation

section

variable (cfg : Settings)

/-! ### Looks in a turn -/

/-- What is done aside leaves the looks in the turn as they are, or adds to them. -/
theorem Within.looksOn {m : Play α} (hm : Quiet (fun _ => True) m) (n : Nat) :
    Triple (fun b => n ≤ b.journal.looksInTurn ∧ Stays b.state) m
      (fun _ b => n ≤ b.journal.looksInTurn ∧ Stays b.state) fun _ _ => True := by
  refine .of_eq fun b ⟨hn, hs⟩ => (Within.entire hm b).conseq (fun _ h => h) ?_ fun _ _ _ => trivial
  intro _ b' h
  rw [Asides.state h]
  exact ⟨Nat.le_trans hn (Asides.looksInTurn_le h), hs⟩

/-- So many looks were made in the turn, and if the battle was left it was after all of them. -/
def LeftAt (looks : Nat) (b : Battle) : Prop :=
  looks ≤ b.journal.looksInTurn ∧ (b.state.retreated = true → b.FellAfter looks)

theorem check.leftAt (n : Nat) :
    Triple (n ≤ ·.journal.looksInTurn) (check cfg)
      (fun _ b => n + 1 ≤ b.journal.looksInTurn ∧ Stays b.state) fun _ _ => True := by
  refine .of_eq fun b hn => ?_
  have stays : Triple (· = b) (check cfg) (fun _ b' => Stays b'.state) fun _ _ => True :=
    (check.alone cfg b).conseq (fun _ h => h) (fun _ _ h => h.2.open.stays) fun _ _ _ => trivial
  refine ((check.passes cfg b).both stays).conseq (fun _ h => ⟨h, h⟩) ?_ fun _ _ _ => trivial
  rintro _ b' ⟨⟨⟨answers, ha, hj⟩, -⟩, hs⟩
  rw [hj, Journal.looksInTurn_ofLook ha]
  exact ⟨Nat.add_le_add_right hn 1, hs⟩

theorem wipeCheck.leftAt (n : Nat) :
    Triple (fun b => n ≤ b.journal.looksInTurn ∧ Stays b.state) (discard (wipeCheck cfg))
      (fun _ => LeftAt n) fun _ _ => True := by
  refine .discard (.of_eq fun b ⟨hn, hs⟩ => ?_)
  refine (wipeCheck.falls cfg hs).conseq (fun _ h => h) ?_ fun _ _ _ => trivial
  intro _ b' h
  cases h with
  | stays h =>
    refine ⟨Nat.le_trans hn (Asides.looksInTurn_le h), fun hr => ?_⟩
    rw [Asides.state h, hs] at hr
    cases hr
  | fallen h hd =>
    obtain ⟨turn, response, earlier, hj, hle⟩ := hd.fallen_journal
    have hn : n ≤ earlier.looksInTurn := by
      have := Asides.looksInTurn_le h
      omega
    refine ⟨?_, fun _ => ⟨[], turn, response, earlier, hj, nofun, hn⟩⟩
    rw [hj]
    exact Nat.le_trans hn (Journal.looksInTurn_le_cons rfl _)

theorem wait.leftAt (n : Nat) (d : Span) :
    Triple (LeftAt n) (wait d) (fun _ => LeftAt n) fun _ _ => True := by
  have asks : Within (Ask fun op => ∃ d, op = .sleep d) (wait d) := wait.asks ⟨_, rfl⟩
  refine .of_eq fun b ⟨hn, hr⟩ => (asks.entire b).conseq (fun _ h => h) ?_ fun _ _ _ => trivial
  intro _ b' h
  obtain ⟨new, hj, hnew⟩ := Asks.entries h
  have hsilent : ∀ e ∈ new, e.endsTurn = false := by
    intro e he
    cases e with
    | call => rfl
    | event => exact (hnew _ he).elim
  refine ⟨?_, fun hleft => ?_⟩
  · rw [hj]
    exact Nat.le_trans hn (Journal.looksInTurn_le_append hsilent _)
  · rw [Asks.state h] at hleft
    obtain ⟨sleeps, turn, response, earlier, hb, hs, hle⟩ := hr hleft
    refine ⟨new ++ sleeps, turn, response, earlier, ?_, ?_, hle⟩
    · rw [hj, hb, List.append_assoc]
    · intro e he
      rcases List.mem_append.1 he with he | he
      · exact hnew e he
      · exact hs e he

/-- A battle that is left in the looks for a turn is found to be left by the next of them, unless
there is none. -/
theorem awaitAutoTurn.leftAt : ∀ looks left n,
    Triple (LeftAt n) (awaitAutoTurn cfg looks left)
      (fun resolved b => resolved = false → LeftAt (n + looks) b) fun _ _ => True
  | 0, _, n => .pure fun _ h _ => h
  | looks + 1, left, n => by
    have hn : n + 1 + looks = n + (looks + 1) := by omega
    refine .bind ((check.leftAt cfg n).mono_start fun _ h => h.1) fun _ => ?_
    refine .bind (Within.looksOn seesTurn.quiet (n + 1)) fun ready => ?_
    have rest : Triple (LeftAt (n + 1)) (do
        wait cfg.retry.pollInterval
        awaitAutoTurn cfg looks (left || !ready))
        (fun resolved b => resolved = false → LeftAt (n + (looks + 1)) b) fun _ _ => True := by
      rw [← hn]
      exact .bind (wait.leftAt _ _) fun _ => awaitAutoTurn.leftAt looks _ (n + 1)
    have stays {b : Battle} (h : n + 1 ≤ b.journal.looksInTurn ∧ Stays b.state) :
        LeftAt (n + 1) b := by
      refine ⟨h.1, fun hr => ?_⟩
      rw [h.2] at hr
      cases hr
    split
    · exact .pure fun _ _ => nofun
    · dsimp only
      split
      · refine .bind (Within.looksOn dismissDialogs.quiet (n + 1)) fun _ => ?_
        exact .bind (wipeCheck.leftAt cfg (n + 1)) fun _ => rest
      · exact rest.mono_start fun _ h => stays h

/-! ### Searches -/

/-- An element was sought in vain so often, and there was a pause after that. -/
def Resought (name : String) (pause : Span) : (looks : Nat) → Journal → Prop
  | 0, _ => True
  | more + 1, j => ∃ e earlier, j = e :: earlier ∧ e.isPause pause = true ∧
      Journal.sought name pause more earlier = true

theorem look.sought (name : String) (pause : Span) (looks : Nat) :
    Triple (Resought name pause looks ·.journal) (look name)
      (fun found b => found = none → b.journal.sought name pause looks = true)
      fun _ _ => True := by
  refine ⟨fun b h => ?_⟩
  rw [look_run]
  intro hnone
  rw [answered, hnone]
  cases looks with
  | zero => exact beq_self_eq_true name
  | succ more =>
    obtain ⟨e, earlier, hj, he, hsought⟩ := h
    rw [hj, Journal.sought, he, hsought, Entry.misses, beq_self_eq_true]
    rfl

theorem sleep.sought (name : String) (pause : Span) (looks : Nat) :
    Triple (fun b => b.journal.sought name pause looks = true) (sleep pause)
      (fun _ b => Resought name pause (looks + 1) b.journal) fun _ _ => True := by
  refine .discard (.of_eq fun b hb => ?_)
  refine (perform.spec (.sleep pause) b).conseq (fun _ h => h) ?_ fun _ _ _ => trivial
  rintro answer _ ⟨s, -, rfl⟩
  exact ⟨_, _, rfl, beq_self_eq_true pause, hb⟩

theorem findWithin.sought (name : String) (more looks : Nat) :
    Triple (Resought name cfg.retry.pollInterval looks ·.journal) (findWithin cfg name more)
      (fun found b => found = none →
        b.journal.sought name cfg.retry.pollInterval (looks + more) = true)
      fun _ _ => True := by
  induction more generalizing looks with
  | zero => exact look.sought name _ looks
  | succ more ih =>
    refine .bind (look.sought name _ looks) fun found => ?_
    cases found with
    | some position => exact .pure fun _ _ => nofun
    | none =>
      have hn : looks + (more + 1) = looks + 1 + more := by omega
      rw [hn]
      exact .bind ((sleep.sought name _ looks).mono_start fun _ h => h rfl) fun _ => ih (looks + 1)

/-- An element that was not clicked was sought in vain as the last thing. -/
theorem findAndClick.sought (name : String) (tries : Nat) :
    Triple (fun _ => True) (findAndClick cfg name tries)
      (fun clicked b => clicked = false →
        b.journal.sought name cfg.retry.pollInterval (tries - 1) = true) fun _ _ => True := by
  refine .bind (findWithin.sought cfg name (tries - 1) 0) fun found => ?_
  cases found with
  | some position => exact .bind (R := fun _ _ => True) .anyhow fun _ => .pure fun _ _ => nofun
  | none =>
    refine .pure fun b h _ => ?_
    rw [Nat.zero_add] at h
    exact h rfl

/-- An element that was clicked was clicked as the last thing. -/
theorem findAndClick.clicks (name : String) (tries : Nat) :
    Triple (fun _ => True) (findAndClick cfg name tries)
      (fun clicked b => clicked = true → ∃ clock q answer earlier,
        b.journal = .call clock (.input (.click name q)) answer :: earlier) fun _ _ => True := by
  refine .of_eq fun b _ => ?_
  refine (findAndClick.pressed cfg name tries b).conseq (fun _ h => h) ?_ fun _ _ _ => trivial
  intro clicked b' h hclicked
  cases h with
  | clicked h =>
    obtain ⟨b₁, q, answer, s, -, -, rfl⟩ := h
    exact ⟨_, q, answer, b₁.journal, rfl⟩
  | missed => cases hclicked

end

end Play
end BattlePilot
