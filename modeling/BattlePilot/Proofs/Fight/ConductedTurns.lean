import BattlePilot.Proofs.Fight.Searches

/-! The courses that bring a turn to its end are conducted. -/

namespace BattlePilot

namespace BattleState

/-- The state is as it was, but that the battle may have been left. -/
def Held (s₀ s : BattleState) : Prop := s = { s₀ with retreated := s.retreated }

theorem Held.refl (s : BattleState) : s.Held s := rfl

theorem Held.left {s₀ s : BattleState} (h : s₀.Held s) : s₀.Held { s with retreated := true } := by
  rw [Held] at h ⊢
  rw [h]

theorem Held.eq {s₀ s : BattleState} (h : s₀.Held s) (hr : s.retreated = s₀.retreated) :
    s = s₀ := by
  rw [h, hr]

/-- The state once the turn being played is counted. -/
def counted (s : BattleState) : BattleState := { s with currentTurn := s.currentTurn + 1 }

end BattleState

theorem Task.Closes.held {t : Task} {s₀ s : BattleState} (ht : t.Closes s₀) (h : s₀.Held s) :
    t.Closes s := by
  rw [h]
  exact ht

/-- The stage once the button that submits a turn was clicked, or was not there. -/
def Stage.ofClick : Bool → Stage
  | true => submitted
  | false => idle

namespace Play
open Battle Relation

variable {F : Setup} {P : BattleState → Prop}
variable {s₀ : BattleState} {t : Task} {p : Stage}

theorem seesTurn.conducts : Conducts F t p P seesTurn p fun _ => P :=
  .gazes (seesTurn.asks fun _ => rfl)

/-! ### Looking for an end -/

theorem check.conducts (hp : p.watches = true) :
    Triple (fun b => Conduct F t p b ∧ P b.state) (check F.cfg)
      (fun _ b => (Conduct F t p b ∧ P b.state) ∧ Finds F.cfg none b)
      fun _ b => b.Conducted F := by
  have look : Conducts F t p P (classify F.cfg) p fun _ => P :=
    .gazes (classify.asks F.cfg fun _ => rfl)
  have conclude (outcome : Outcome) : Triple (Conduct F t p)
      (conclude outcome : Play Unit)
      (fun _ b => (Conduct F t p b ∧ P b.state) ∧ Finds F.cfg none b)
      fun _ b => b.Conducted F :=
    ⟨fun _ hb => (hb.concluded outcome).conducted⟩
  refine .bind (Triple.and look (classify.spec F.cfg)) fun found => ?_
  cases found with
  | none => exact .pure fun _ h => h
  | some outcome =>
    dsimp only
    split
    · next ho =>
      subst ho
      refine .bind (.of_eq fun b ⟨⟨hb, _⟩, hf⟩ => ?_) fun _ => conclude _
      have hs : b.state.retreated = false := by
        cases hf with
        | battleConcluded ho => exact ho.stays
      have dismiss : Conducts F t p Stays (press F.cfg "reload") p fun _ => Stays :=
        .quiet hp (fun _ h => h) (press.quiet F.cfg (.inl rfl))
      exact Triple.conseq dismiss (fun _ h => h ▸ ⟨hb, hs⟩) (fun _ _ h => h.1) fun _ _ h => h
    · exact (conclude outcome).mono_start fun _ h => h.1.1

/-- A battle that goes on after the look for its end stays. -/
theorem check.stays (hp : p.watches = true) :
    Conducts F t p P (check F.cfg) p fun _ s => P s ∧ Stays s :=
  (check.conducts hp).mono_value fun _ _ ⟨⟨hb, hs⟩, hf⟩ => ⟨hb, hs, hf.open.stays⟩

/-! ### Looking after the party -/

theorem wipeCheck.conducts (hp : p.watches = true) :
    Conducts F t p (fun s => s₀.Held s ∧ Stays s) (discard (wipeCheck F.cfg)) p
      fun _ => s₀.Held := by
  refine .discard (.of_eq fun b hb ⟨hheld, hs⟩ => ?_)
  refine (wipeCheck.falls F.cfg hs).conseq (fun _ h => h) ?_ ?_
  · intro _ b' h
    cases h with
    | stays h =>
      rw [Asides.state h]
      exact ⟨hb.asides hp hs h, hheld⟩
    | fallen h hd =>
      rw [hd.of_fallen, Asides.state h]
      exact ⟨(hb.asides hp hs h).fallen hp hd, hheld.left⟩
  · rintro _ b' ⟨-, h⟩
    exact (hb.asides hp hs h).conducted

theorem waitForAttack.conducts : ∀ tries,
    Conducts F t .submitted s₀.Held (waitForAttack F.cfg tries) .submitted
      fun _ => s₀.Held
  | 0 => .pure fun _ h => h
  | tries + 1 => by
    -- a battle that was left counts as ready, so that the party is looked after in one that stays
    have ready : Conducts F t .submitted s₀.Held
        (either (return (← get).state.retreated) seesTurn) .submitted
        fun seen s => s₀.Held s ∧ (seen = false → Stays s) := by
      have left : Conducts F t .submitted s₀.Held
          (return (← get).state.retreated) .submitted
          fun left s => s₀.Held s ∧ (left = false → Stays s) :=
        .get_bind fun b hs => .pure fun _ h => by rw [h]; exact ⟨hs, id⟩
      refine .bind left fun left => ?_
      cases left with
      | true => exact .pure fun _ h => ⟨h.1, nofun⟩
      | false =>
        refine (seesTurn.conducts (P := fun s => s₀.Held s ∧ Stays s)).mono ?_ ?_
        · exact fun _ h => ⟨h.1, h.2 rfl⟩
        · exact fun _ _ h => ⟨h.1, fun _ => h.2⟩
    have tend : Conducts F t .submitted (fun s => s₀.Held s ∧ Stays s)
        (onlyIf ((tries + 1) % 2 == 0) (do
          dismissDialogs
          discard (wipeCheck F.cfg)
          either (sees "battle_concluded") (sees "exp_gained"))) .submitted
        fun _ => s₀.Held := by
      unfold onlyIf
      split
      · refine .bind (.quiet rfl (fun _ h => h.2) dismissDialogs.quiet) fun _ => ?_
        refine .bind (wipeCheck.conducts rfl) fun _ => ?_
        exact .gazes (.either (sees.asks rfl) (sees.asks rfl))
      · exact .pure fun _ h => h.1
    refine .bind ready fun seen => ?_
    cases seen with
    | true => exact .pure fun _ h => h.1
    | false =>
      refine .bind (tend.mono_start fun _ h => ⟨h.1, h.2 rfl⟩) fun done => ?_
      split
      · exact .pure fun _ h => h
      · exact .bind (.gazes (wait.asks rfl)) fun _ => waitForAttack.conducts tries

/-! ### Watching automation play a turn -/

theorem awaitAutoTurn.conducts : ∀ looks left,
    Conducts F t .idle s₀.Held (awaitAutoTurn F.cfg looks left) .idle
      fun _ => s₀.Held
  | 0, _ => .pure fun _ h => h
  | looks + 1, left => by
    refine .bind (check.stays rfl) fun _ => ?_
    refine .bind (seesTurn.conducts) fun ready => ?_
    have rest : Conducts F t .idle s₀.Held (do
        wait F.cfg.retry.pollInterval
        awaitAutoTurn F.cfg looks (left || !ready)) .idle fun _ => s₀.Held :=
      .bind (.gazes (wait.asks rfl)) fun _ => awaitAutoTurn.conducts looks _
    split
    · exact .pure fun _ h => h.1
    · dsimp only
      split
      · refine .bind (.quiet rfl (fun _ h => h.2) dismissDialogs.quiet) fun _ => ?_
        exact .bind (wipeCheck.conducts rfl) fun _ => rest
      · exact rest.mono_start fun _ h => h.1

/-! ### Submitting a turn -/

theorem findAndClick.submits (h : name = "attack" ∨ name = "home_back") (tries : Nat)
    (hP : ∀ s, P s → Stays s) :
    Triple (fun b => Conduct F t .idle b ∧ P b.state) (findAndClick F.cfg name tries)
      (fun clicked b => Conduct F t (.ofClick clicked) b ∧ P b.state)
      fun _ b => b.Conducted F := by
  have press : Conducts F t .idle P (findAndClick F.cfg name tries) .idle fun _ => P :=
    .quiet rfl hP (findAndClick.quiet F.cfg (.inr trivial) tries)
  refine (Triple.and press (findAndClick.clicks F.cfg name tries)).mono_value ?_
  rintro clicked b ⟨⟨hb, hs⟩, hclicks⟩
  refine ⟨?_, hs⟩
  cases clicked with
  | true =>
    obtain ⟨clock, q, answer, earlier, hj⟩ := hclicks rfl
    refine hb.submitted (.clicked hj ?_)
    rcases h with rfl | rfl <;> rfl
  | false => exact hb

/-- What follows a click that submits a turn is done at the stage of a turn that is submitted. -/
theorem Conducts.submits (h : name = "attack" ∨ name = "home_back") (tries : Nat)
    (hP : ∀ s, P s → Stays s) {f : Bool → Play α} {Q : α → BattleState → Prop}
    (hclicked : Conducts F t .submitted P (f true) p Q)
    (hmissed : Conducts F t .idle P (f false) p Q) :
    Conducts F t .idle P (findAndClick F.cfg name tries >>= f) p Q := by
  refine Triple.bind (findAndClick.submits h tries hP) fun clicked => ?_
  cases clicked with
  | true => exact hclicked
  | false => exact hmissed

theorem submitTurn.conducts (hP : ∀ s, P s → Stays s) :
    Conducts F t .idle P (submitTurn F.cfg) .submitted fun _ => P := by
  have press : Triple (fun b => Conduct F t .idle b ∧ P b.state) (findAndClick F.cfg "attack" 10)
      (fun _ b => Conduct F t .submitted b ∧ P b.state) fun _ b => b.Conducted F := by
    have clicks := findAndClick.submits (F := F) (t := t) (.inl rfl) 10 hP
    refine (clicks.and (findAndClick.sought F.cfg "attack" 10)).mono_value ?_
    rintro clicked b ⟨⟨hb, hs⟩, hsought⟩
    refine ⟨?_, hs⟩
    cases clicked with
    | true => exact hb
    | false => exact hb.submitted (.inVain (hsought rfl))
  refine .bind (R := fun _ => P) (.discard press) fun _ => ?_
  refine .bind (.quiet rfl hP (settleAttack.quiet F.cfg)) fun _ => ?_
  exact .quiet rfl hP (reloadAfterAttack.quiet F.cfg)

theorem Within.lapsed {m : Play α} (hm : Within Mend m) :
    Triple (fun b => (∃ k, Conduct F t (.lapsed k) b) ∧ P b.state) m
      (fun _ b => (∃ k, Conduct F t (.lapsed k) b) ∧ P b.state) fun _ b => b.Conducted F := by
  refine .of_eq fun b ⟨⟨k, hb⟩, hs⟩ => (hm.entire b).conseq (fun _ h => h) ?_ ?_
  · intro _ b' h
    rw [Mends.state h]
    exact ⟨⟨k, hb.mends h⟩, hs⟩
  · rintro _ b' ⟨-, h⟩
    exact (hb.mends h).conducted

/-- A turn that automation left alone is submitted whatever has become of the battle. -/
theorem submitTurn.resubmits :
    Conducts F t (.lapsed false) P (submitTurn F.cfg) .submitted fun _ => P := by
  have press : Triple (fun b => Conduct F t (.lapsed false) b ∧ P b.state)
      (findAndClick F.cfg "attack" 10)
      (fun _ b => (∃ k, Conduct F t (.lapsed k) b) ∧ P b.state) fun _ b => b.Conducted F := by
    have gazes {b b' : Battle} (hb : Conduct F t (.lapsed false) b)
        (h : Asks (ScreenOp.Seeks "attack") b b') : Conduct F t (.lapsed false) b' := by
      refine hb.asks (fun op hop => .inl ?_) h
      cases op with
      | find | sleep => rfl
      | _ => cases hop
    refine .of_eq fun b ⟨hb, hs⟩ => ?_
    refine (findAndClick.pressed F.cfg "attack" 10 b).conseq (fun _ h => h) ?_ ?_
    · intro clicked b' h
      cases h with
      | clicked h =>
        obtain ⟨b₁, q, answer, s, ha, hperform, rfl⟩ := h
        refine ⟨⟨true, (gazes hb ha).struck hperform⟩, ?_⟩
        rw [← Asks.state ha] at hs
        exact hs
      | missed h =>
        rw [Asks.state h]
        exact ⟨⟨false, gazes hb h⟩, hs⟩
    · rintro _ b' ⟨-, h⟩
      exact (gazes hb h).conducted
  refine Triple.bind (R := fun _ b => (∃ k, Conduct F t (.lapsed k) b) ∧ P b.state)
    (.discard press) fun _ => ?_
  refine .bind (Within.lapsed (settleAttack.mends F.cfg)) fun _ => ?_
  refine (Within.lapsed (reloadAfterAttack.mends F.cfg)).mono_value fun _ b ⟨⟨k, hb⟩, hs⟩ => ?_
  exact ⟨hb.resubmitted, hs⟩

/-- The stage once automation was watched to resolve a turn, or left it alone. -/
def Stage.ofWatch : Bool → Stage
  | true => .submitted
  | false => .lapsed false

theorem awaitAutoTurn.closes (hs : Stays s₀) (hm : s₀.autoMode.isActive = true) :
    Triple (fun b => Conduct F t .idle b ∧ b.state = s₀) (awaitAutoTurn F.cfg autoTurnLooks false)
      (fun resolved b => Conduct F t (Stage.ofWatch resolved) b ∧ s₀.Held b.state)
      fun _ b => b.Conducted F := by
  have start : ∀ b : Battle, b.state = s₀ → LeftAt 0 b := by
    rintro b rfl
    refine ⟨Nat.zero_le _, fun hr => ?_⟩
    rw [hs] at hr
    cases hr
  have watch := awaitAutoTurn.leftAt F.cfg autoTurnLooks false 0
  have await : Conducts F t .idle s₀.Held (awaitAutoTurn F.cfg autoTurnLooks false) .idle
      fun _ => s₀.Held := awaitAutoTurn.conducts _ _
  refine (Triple.both await watch).conseq ?_ ?_ fun _ _ h => h.1
  · rintro b ⟨hb, hstate⟩
    exact ⟨⟨hb, hstate ▸ .refl _⟩, start b hstate⟩
  · rintro resolved b ⟨⟨hb, hheld⟩, hleft⟩
    have hmode : b.state.autoMode.isActive = true := by
      rw [hheld]
      exact hm
    refine ⟨?_, hheld⟩
    cases resolved with
    | true => exact hb.submitted (.automatic hmode)
    | false =>
      have hlast : LeftAt autoTurnLooks b := Nat.zero_add autoTurnLooks ▸ hleft rfl
      exact hb.lapsed hmode hlast.2

/-! ### Counting a turn -/

theorem finishTurn.conducts (hP : ∀ s, P s → t.Closes s) :
    Conducts F t .submitted P finishTurn .idle fun _ s => ∃ s₁, P s₁ ∧ s = s₁.counted := by
  refine .of_eq fun b hb hs => (finishTurn.ends F.cfg b).conseq (fun _ h => h) ?_ ?_
  · intro _ b' h
    exact ⟨hb.turnEnded (hP _ hs) h, b.state, hs, h.of_turnEnded⟩
  · rintro _ b' ⟨-, rfl⟩
    exact (hb.overran (hP _ hs)).conducted

theorem pressNext.conducts (hP : ∀ s, P s → Stays s) :
    Conducts F t .idle P (pressNext F.cfg) .idle fun _ => P :=
  .quiet rfl hP (pressNext.quiet F.cfg trivial)

/-- A turn is brought to its end by hand, or by automation that plays. -/
theorem closeTurn.conducts (ht : t.Closes s₀) (hs : Stays s₀) (submit : Bool)
    (hm : submit = false → s₀.autoMode.isActive = true) :
    Conducts F t .idle (· = s₀) (closeTurn F.cfg submit) .idle fun _ => (· = s₀.counted) := by
  have rest : Conducts F t .submitted s₀.Held (do
      discard (waitForAttack F.cfg resolveTries)
      finishTurn
      check F.cfg
      pressNext F.cfg) .idle fun _ => (· = s₀.counted) := by
    refine .bind (R := fun _ => s₀.Held) (.discard (waitForAttack.conducts _)) fun _ => ?_
    refine .bind (finishTurn.conducts fun _ h => ht.held h) fun _ => ?_
    refine .bind (check.stays rfl) fun _ => ?_
    refine (pressNext.conducts (P := (· = s₀.counted)) fun _ h => h ▸ hs).mono_start ?_
    rintro _ ⟨⟨s₁, hheld, rfl⟩, hstays⟩
    rw [hheld.eq (hstays.trans hs.symm)]
  have held : ∀ s, s = s₀ → s₀.Held s := fun s h => h ▸ .refl s
  have stays : ∀ s, s = s₀ → Stays s := fun s h => h ▸ hs
  unfold closeTurn
  cases submit with
  | true => exact .bind (submitTurn.conducts stays) fun _ => rest.mono_start held
  | false =>
    refine Triple.bind (awaitAutoTurn.closes hs (hm rfl)) fun resolved => ?_
    cases resolved with
    | true => exact rest
    | false => exact .bind submitTurn.resubmits fun _ => rest

end Play
end BattlePilot
