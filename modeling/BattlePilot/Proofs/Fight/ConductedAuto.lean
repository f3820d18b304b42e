import BattlePilot.Proofs.Fight.ConductedTurns
import BattlePilot.Proofs.Play.EnablingAuto

/-! The courses that turn automation on, let it give way and end turns for a marker are
conducted. -/

namespace BattlePilot

namespace BattleState

/-- No automation is owed; another mode may be on. -/
def Settled (s₀ s : BattleState) : Prop :=
  ∃ mode, s = { s₀ with autoMode := mode, suspendedAuto := none }

theorem Settled.of_none {s : BattleState} (h : s.suspendedAuto = none) : s.Settled s :=
  ⟨s.autoMode, by rw [← h]⟩

end BattleState

namespace Play
open Battle Relation

/-! ### Turning automation on -/

section

variable (cfg : Settings)

theorem tryAuto.asks (kind : AutoKind) :
    Within (Ask (ScreenOp.Light fun _ => True)) (tryAuto cfg kind) := by
  cases kind with
  | full => exact tryFull.asks cfg trivial
  | semi => exact trySemi.asks cfg trivial

theorem tryAuto.opens (kind : AutoKind) : Opens kind.control (tryAuto cfg kind) := by
  have after : Within (Ask (ScreenOp.Light fun _ => True)) (trySemiAfterAttack cfg) :=
    trySemiAfterAttack.asks cfg trivial
  cases kind with
  | full =>
    refine .bind (A := ScreenOp.Light fun _ => True) (findAndClick.opens cfg "full_auto" _)
      fun clicked => ?_
    split
    · exact .pure _
    · refine .bind after fun clicked => ?_
      split <;> exact .pure _
  | semi =>
    refine .bind (A := ScreenOp.Light fun _ => True) (find.opens cfg "semi_auto_enabled" _)
      fun found => ?_
    split
    · exact .pure _
    · refine .bind after fun clicked => ?_
      split
      · exact .pure _
      · refine .bind (findAndClick.light cfg (.inl rfl) _) fun clicked => ?_
        split <;> exact .pure _

end

variable {F : Setup} {P : BattleState → Prop}
variable {s₀ : BattleState} {t : Task} {p : Stage}

theorem attempt.conducts (hs : Stays s₀) (hm : s₀.autoMode = .manual) (kind : AutoKind)
    (since : Journal) :
    Triple (fun b => (Conduct F t (.attempting kind since) b ∧ b.state = s₀) ∧ b.journal = since)
      (attempt F.cfg kind)
      (fun _ b => Conduct F t .idle b ∧ ∃ mode, b.state = { s₀ with autoMode := mode })
      fun _ b => b.Conducted F := by
  have tried : Triple
      (fun b => (Conduct F t (.attempting kind since) b ∧ b.state = s₀) ∧ b.journal = since)
      (tryAuto F.cfg kind)
      (fun _ b => (Conduct F t (.attempting kind since) b ∧ b.state = s₀) ∧
        ∃ tries, b.journal = tries ++ since ∧ Journal.Attempts kind tries)
      fun _ b => b.Conducted F := by
    have asks : Triple (fun b => Conduct F t (.attempting kind since) b ∧ b.state = s₀)
        (tryAuto F.cfg kind)
        (fun _ b => Conduct F t (.attempting kind since) b ∧ b.state = s₀)
        fun _ b => b.Conducted F := by
      refine .of_eq fun b ⟨hb, hstate⟩ => ?_
      subst hstate
      refine ((tryAuto.asks F.cfg kind).entire b).conseq (fun _ h => h) ?_ ?_
      · exact fun _ b' h => ⟨hb.asks (fun _ _ => .inr hs) h, Asks.state h⟩
      · rintro _ b' ⟨-, h⟩
        exact (hb.asks (fun _ _ => .inr hs) h).conducted
    refine (asks.both (tryAuto.opens F.cfg kind since)).conseq (fun _ h => h) ?_ fun _ _ h => h.1
    rintro mode b ⟨hb, rest, clock, answer, hj, hrest⟩
    exact ⟨hb, rest ++ [.call clock (.find kind.control) answer], by simp [hj],
      rest, clock, answer, rfl, hrest⟩
  refine .bind tried fun mode => .of_eq fun b ⟨⟨hb, hstate⟩, tries, hj, htries⟩ => ?_
  subst hstate
  cases ha : mode.isActive with
  | true =>
    have hne : mode ≠ .manual := by
      rintro rfl
      cases ha
    rw [if_neg hne]
    refine (setAutoMode.enables F.cfg hm ha).conseq (fun _ h => h) ?_ fun _ _ => False.elim
    intro _ b' h
    refine ⟨hb.enabled hj htries h, ?_⟩
    cases h with
    | enabled => exact ⟨_, rfl⟩
  | false =>
    obtain rfl := AutoMode.eq_manual ha
    have refused : Triple (· = b) (setback .autoUnavailable)
        (fun _ b' => b' = b.noted (.recovered b.state.currentTurn .autoUnavailable))
        fun _ b => b.Conducted F :=
      .turn_bind fun _ h => h ▸ .modify fun _ h => h ▸ rfl
    refine .bind refused fun _ => ?_
    have keeps := setAutoMode.keeps
      (b := b.noted (.recovered b.state.currentTurn .autoUnavailable)) hm
    refine keeps.conseq (fun _ h => h) ?_ fun _ _ => False.elim
    rintro _ _ rfl
    exact ⟨hb.refused hj htries, b.state.autoMode, rfl⟩

/-- An attempt that is begun where automation of its kind may be turned on. -/
theorem attempt.settles {b : Battle} (hb : Conduct F t .idle b) (hs : Stays b.state)
    (hm : b.state.autoMode = .manual) (hk : b.Owes kind) :
    Triple (· = b.released) (attempt F.cfg kind)
      (fun _ b' => Conduct F t .idle b' ∧ b.state.Settled b'.state) fun _ b => b.Conducted F := by
  have hs : Stays b.released.state := hs
  refine (attempt.conducts (t := t) hs hm kind b.journal).conseq ?_ ?_ fun _ _ h => h
  · rintro _ rfl
    exact ⟨⟨hb.began hm hk, rfl⟩, rfl⟩
  · rintro _ b' ⟨hb', mode, hstate⟩
    exact ⟨hb', mode, hstate⟩

/-- Automation of a kind is turned on, unless some kind of it is on already. -/
theorem enableAuto.conducts (hs : Stays s₀) (kind : AutoKind) :
    Triple (fun b => Conduct F t .idle b ∧ b.state = s₀ ∧ b.Owes kind) (enableAuto F.cfg kind)
      (fun _ b => Conduct F t .idle b ∧ s₀.Settled b.state) fun _ b => b.Conducted F := by
  rw [enableAuto_eq]
  refine .get_bind fun b ⟨hb, hstate, hk⟩ => ?_
  subst hstate
  split
  · next ha =>
    refine .pure fun _ h => ?_
    subst h
    refine ⟨hb, .of_none (Decidable.byContradiction fun hne => ?_)⟩
    rw [hb.owing.1 hne] at ha
    cases ha
  · next ha =>
    have hm : b.state.autoMode = .manual := AutoMode.eq_manual (eq_false_of_ne_true ha)
    refine .bind (R := fun _ b' => b' = b.released) (.modify fun _ h => h ▸ rfl) fun _ => ?_
    exact attempt.settles hb hs hm hk

/-- Automation that is owed is turned on again. -/
theorem resumeAuto.conducts (hs : Stays s₀) :
    Conducts F t .idle (· = s₀) (resumeAuto F.cfg) .idle fun _ => s₀.Settled := by
  refine .of_eq fun b hb hstate => .get_bind fun b₁ h => ?_
  subst h hstate
  split
  · next hnone =>
    refine .pure fun _ h => ?_
    subst h
    exact ⟨hb, .of_none hnone⟩
  · next kind hkind =>
    have hm : b₁.state.autoMode = .manual := hb.owing.1 fun h => by rw [hkind] at h; cases h
    have ha : b₁.released.state.autoMode.isActive = false := congrArg AutoMode.isActive hm
    refine .bind (R := fun _ b' => b' = b₁.released) (.modify fun _ h => h ▸ rfl) fun _ => ?_
    rw [enableAuto_eq]
    refine .get_bind fun b₂ h => ?_
    subst h
    rw [ha]
    refine .bind (R := fun _ b' => b' = b₁.released) (.modify ?_) fun _ => ?_
    · rintro _ rfl
      rfl
    · exact attempt.settles hb hs hm (.inr (.inl hkind))

/-- Automation gives way before the last turn that is missing. -/
theorem suspendAuto.conducts (hsync : F.cfg.strategy.turnSync = .strict) (hs : Stays s₀)
    (hn : s₀.currentTurn + 1 = n.toNat) :
    Conducts F (.approaching played n) .idle (· = s₀) (suspendAuto F.cfg) .idle
      fun _ s => Stays s ∧ s.autoMode = .manual ∧ s.currentTurn = s₀.currentTurn := by
  have stays : ∀ s, s = s₀ → Stays s := fun _ h => h ▸ hs
  refine .get_bind fun b hstate => ?_
  subst hstate
  split
  · next hnone =>
    refine .pure ?_
    rintro s rfl
    refine ⟨hs, ?_, rfl⟩
    cases h : b.state.autoMode with
    | manual => rfl
    | _ => rw [h] at hnone; cases hnone
  · next kind hkind =>
    have press := press.quiet F.cfg (W := fun _ => True) (.inl (enabledControl_light kind))
    refine .bind (.quiet rfl stays press) fun _ => .of_eq fun b₁ hb hstate => ?_
    rw [← hstate] at hkind hs hn ⊢
    refine (setAutoMode.suspends F.cfg hkind).conseq (fun _ h => h) ?_ fun _ _ => False.elim
    intro _ b' h
    refine ⟨hb.suspended hsync hn h, ?_⟩
    cases h with
    | suspended => exact ⟨hs, rfl, rfl⟩

/-! ### Ending turns -/

/-- A turn is brought to its end by whoever plays. -/
theorem closeTurn.byMode (ht : t.Closes s₀) (hs : Stays s₀) :
    Conducts F t .idle (· = s₀) (do closeTurn F.cfg (← isByHand)) .idle
      fun _ => (· = s₀.counted) := by
  have asked : Conducts F t .idle (· = s₀) isByHand .idle
      fun byHand s => s = s₀ ∧ byHand = !s₀.autoMode.isActive := by
    refine .get_bind fun b h => .pure ?_
    rintro s rfl
    rw [h]
    exact ⟨rfl, rfl⟩
  refine .bind asked fun byHand => .of_state ?_
  rintro s ⟨rfl, hmode⟩
  refine closeTurn.conducts ht hs byHand fun h => ?_
  rw [h] at hmode
  cases ha : s.autoMode.isActive with
  | true => rfl
  | false => rw [ha] at hmode; cases hmode

/-- A turn that is ended by the script is ended once no automation is owed. -/
theorem endTurn.conducts (ht : ∀ s, s.suspendedAuto = none → t.Closes s) :
    Conducts F t .idle Stays (endTurn F.cfg) .idle fun _ => Stays := by
  refine .of_state fun s₀ hs => .bind (resumeAuto.conducts hs) fun _ => .of_state ?_
  rintro s ⟨mode, h⟩
  subst h
  have hclose := ht { s₀ with autoMode := mode, suspendedAuto := none } rfl
  refine (closeTurn.byMode hclose hs).mono_value ?_
  rintro _ _ rfl
  exact hs

theorem closeNext.conducts (hsync : F.cfg.strategy.turnSync = .strict) (last : Bool)
    (hlast : last = true → turn + 1 = n.toNat) :
    Conducts F (.approaching played n) .idle (fun s => Stays s ∧ s.currentTurn = turn)
      (closeNext F.cfg last) .idle fun _ s => Stays s ∧ s.currentTurn = turn + 1 := by
  have close : Conducts F (.approaching played n) .idle
      (fun s => Stays s ∧ s.currentTurn = turn) (do
        dismissDialogs
        closeTurn F.cfg (← isByHand)) .idle fun _ s => Stays s ∧ s.currentTurn = turn + 1 := by
    refine .bind (.quiet rfl (fun _ h => h.1) dismissDialogs.quiet) fun _ => .of_state ?_
    rintro s ⟨hs, rfl⟩
    have hclose : (Task.approaching played n).Closes s := trivial
    refine (closeTurn.byMode hclose hs).mono_value ?_
    rintro _ _ rfl
    exact ⟨hs, rfl⟩
  unfold closeNext
  split
  · next h =>
    refine .of_state fun s ⟨hs, hturn⟩ => ?_
    have hn : s.currentTurn + 1 = n.toNat := by rw [hturn, hlast h]
    refine .bind (suspendAuto.conducts hsync hs hn) fun _ => close.mono_start ?_
    exact fun _ h => ⟨h.1, h.2.2.trans hturn⟩
  · exact close

theorem fastForward.conducts (hsync : F.cfg.strategy.turnSync = .strict) (left : Nat)
    (hn : turn + left = n.toNat) :
    Conducts F (.approaching played n) .idle (fun s => Stays s ∧ s.currentTurn = turn)
      (fastForward F.cfg left) .idle fun _ => Stays := by
  induction left generalizing turn with
  | zero => exact .pure fun _ h => h.1
  | succ left ih =>
    rw [fastForward_succ]
    refine .bind (closeNext.conducts hsync _ fun h => ?_) fun _ => ih (by omega)
    have : left = 0 := eq_of_beq h
    omega

/-! ### Markers -/

theorem reachTurn.conducts (hs : Stays s₀) (played : List Command) (n : UInt32) :
    Triple (fun b => Conduct F (.marker played n) .idle b ∧ b.state = s₀)
      (reachTurn F.cfg n.toNat)
      (fun _ b => Conduct F (.approaching played n) .idle b ∧ Stays b.state)
      fun _ b => b.Conducted F := by
  have stays : ∀ s, s = s₀ → Stays s := fun _ h => h ▸ hs
  have dismiss : Conducts F (.marker played n) .idle (· = s₀) dismissDialogs .idle
      fun _ => (· = s₀) := .quiet rfl stays dismissDialogs.quiet
  have aim {b : Battle} (hb : Conduct F (.marker played n) .idle b) (hsettled : s₀.Settled b.state)
      (target : Nat) : Triple (· = b) (modifyState fun s => { s with targetTurn := target })
        (fun _ b' => Conduct F (.approaching played n) .idle b' ∧ Stays b'.state ∧
          b'.state.currentTurn = b.state.currentTurn) fun _ b => b.Conducted F := by
    obtain ⟨mode, hmode⟩ := hsettled
    have hnone : b.state.suspendedAuto = none := by rw [hmode]
    have hstays : Stays b.state := by
      rw [hmode]
      exact hs
    refine .modify ?_
    rintro _ rfl
    exact ⟨hb.aimed hnone (.aimed target), hstays, rfl⟩
  refine .bind dismiss fun _ => .bind (resumeAuto.conducts hs) fun _ => ?_
  refine .turn_bind fun b ⟨hb, hsettled⟩ => ?_
  split
  · exact .bind (aim hb hsettled _) fun _ => .pure fun _ h => ⟨h.1, h.2.1⟩
  · next hsync =>
    refine .bind (aim hb hsettled _) fun _ => ?_
    split
    · exact .pure fun _ h => ⟨h.1, h.2.1⟩
    · next hle =>
      have hn : b.state.currentTurn + (n.toNat - b.state.currentTurn) = n.toNat := by omega
      refine .bind (fastForward.conducts hsync _ hn) fun _ => ?_
      exact .turn_bind fun b' h => .pure fun _ h' => h' ▸ h

/-- A marker is told to have come to something once its turn is reached or has passed. -/
theorem enterTurn.conducts (hs : Stays s₀) (played : List Command) (n : UInt32) :
    Triple (fun b => Conduct F (.marker played n) .idle b ∧ b.state = s₀)
      (enterTurn F.cfg n.toNat) (fun _ b => Conduct F .reading .idle b ∧ Stays b.state)
      fun _ b => b.Conducted F := by
  rw [enterTurn_eq]
  have comes : Triple (fun b => Conduct F (.marker played n) .idle b ∧ b.state = s₀)
      (reachTurn F.cfg n.toNat)
      (fun e b => (Conduct F (.approaching played n) .idle b ∧ Stays b.state) ∧
        Comes F.cfg n.toNat e b.state) fun _ b => b.Conducted F := by
    have course := reachTurn.course F.cfg Deed.Reaching.reaches n.toNat
    refine .of_eq fun b hb => ?_
    have reach : Triple (· = b) (reachTurn F.cfg n.toNat) _ _ :=
      (reachTurn.conducts hs played n).mono_start fun _ h => h ▸ hb
    exact (reach.both (course.alone b trivial)).conseq (fun _ h => ⟨h, h⟩)
      (fun _ _ h => ⟨h.1, h.2.2⟩) fun _ _ h => h.1
  refine .bind comes fun e => .modify ?_
  rintro b ⟨⟨hb, hstays⟩, hcomes⟩
  cases hcomes with
  | opened => exact ⟨hb.opened .opened, hstays⟩
  | passed _ hp => exact ⟨hb.skipped (.skipped hp), hstays⟩

end Play
end BattlePilot
