import BattlePilot.Proofs.Play.FallenCourse

/-! The courses that bring turns to their end. -/

namespace BattlePilot

theorem AutoMode.eq_manual {mode : AutoMode} (h : mode.isActive = false) : mode = manual := by
  cases mode with
  | manual => rfl
  | _ => cases h

/-- What may be done before it is told what a marker has come to. -/
def Battle.Deed.Reaching : Battle.Deed → Prop
  | .turnEnded | .fallen | .enabled | .released | .suspended | .aimed => True
  | _ => False

namespace Play
open Battle

variable (cfg : Settings) {K : Deed → Prop} {P : BattleState → Prop}

structure InPlay (K : Deed → Prop) : Prop where
  turnEnded : K .turnEnded
  fallen : K .fallen
  enabled : K .enabled
  released : K .released

theorem check.alone (b : Battle) :
    Spec (· = b) (check cfg) (fun _ b' => Asks cfg.Light b b' ∧ Finds cfg none b')
      fun outcome b' =>
        ∃ b₁, Asks cfg.Light b b₁ ∧ Verdict cfg outcome b₁ ∧ b' = b₁.concluded outcome :=
  (check.spec cfg (fun _ => trivial) (fun _ => ScreenOp.Presses.light (.inl rfl)) b).of_refl

/-- A battle that goes on after the look for its end stays. -/
theorem check.course : Course cfg K P (check cfg) fun _ s => P s ∧ Stays s := by
  refine .of_eq fun b hp => ?_
  refine (check.alone cfg b).mono_result (fun _ b' ⟨h, hf⟩ => ?_)
    fun outcome b' ⟨b₁, h, hv, hb⟩ => ⟨b₁, h.moves, hv, hb⟩
  exact ⟨h.moves, by rwa [h.state], hf.open.stays⟩

theorem isByHand.quiet {W : String → Prop} : Quiet W isByHand :=
  .get_bind fun _ => .pure _

/-! ### Weighty clicks -/

theorem findAndClick.course {name : String} (h : name ≠ "retreat_confirmation") (tries : Nat) :
    Course cfg K P (findAndClick cfg name tries) fun _ => P :=
  .quiet (findAndClick.quiet cfg (.inr (Settings.clicks_of_ne h)) tries)

theorem press.course {name : String} (h : name ≠ "retreat_confirmation") :
    Course cfg K P (press cfg name) fun _ => P :=
  .discard (findAndClick.course cfg h _)

theorem submitTurn.course : Course cfg K P (submitTurn cfg) fun _ => P :=
  .quiet (submitTurn.quiet cfg (Settings.clicks_of_ne (by decide)))

theorem pressNext.course : Course cfg K P (pressNext cfg) fun _ => P :=
  .quiet (pressNext.quiet cfg (Settings.clicks_of_ne (by decide)))

/-! ### Waiting for a turn -/

theorem waitForAttack.course (hk : K .fallen) :
    ∀ tries, Course cfg K Anyhow (waitForAttack cfg tries) fun _ => Anyhow
  | 0 => .pure fun _ h => h
  | tries + 1 => by
    -- a battle that was left counts as ready, so that the party is looked after in one that stays
    have ready : Course cfg K Anyhow (either (return (← get).state.retreated) seesTurn)
        fun seen s => seen = false → Stays s := by
      refine .bind (R := fun left s => left = false → Stays s) ?_ fun left => ?_
      · exact .get_bind fun b _ => .pure fun _ h => by rw [h]; exact id
      · cases left with
        | true => exact .pure fun _ _ => nofun
        | false => exact (Course.quiet seesTurn.quiet).mono (fun _ h => h rfl) fun _ _ h _ => h
    refine .bind ready fun seen => ?_
    split
    · exact .pure fun _ _ => trivial
    · next hs =>
      refine .bind (R := fun _ => Anyhow) ?_ fun done => ?_
      · refine .onlyIf ?_ fun _ _ => trivial
        refine .bind (.quiet dismissDialogs.quiet) fun _ => ?_
        refine .bind (R := fun _ => Anyhow) ?_ fun _ => ?_
        · exact .discard ((wipeCheck.course cfg hk).mono_start fun _ h =>
            h (eq_false_of_ne_true hs))
        · exact .quiet (.either (sees.quiet _) (sees.quiet _))
      · split
        · exact .pure fun _ h => h
        · exact .bind (.quiet (wait.quiet _)) fun _ => waitForAttack.course hk tries

theorem awaitAutoTurn.course (hk : K .fallen) :
    ∀ looks left, Course cfg K Anyhow (awaitAutoTurn cfg looks left) fun _ => Anyhow
  | 0, _ => .pure fun _ h => h
  | looks + 1, left => by
    refine .bind (check.course cfg) fun _ => .bind (.quiet seesTurn.quiet) fun ready => ?_
    split
    · exact .pure fun _ _ => trivial
    · have rest : Course cfg K Anyhow (do
          wait cfg.retry.pollInterval
          awaitAutoTurn cfg looks (left || !ready)) fun _ => Anyhow :=
        .bind (.quiet (wait.quiet _)) fun _ => awaitAutoTurn.course hk looks _
      dsimp only
      split
      · refine .bind (.quiet dismissDialogs.quiet) fun _ => ?_
        refine .bind (R := fun _ => Anyhow) ?_ fun _ => rest
        exact .discard ((wipeCheck.course cfg hk).mono_start fun _ h => h.2)
      · exact rest.of_anyhow

/-! ### Automation -/

theorem setAutoMode.enables {b : Battle} (hm : b.state.autoMode = .manual)
    (ha : mode.isActive = true) :
    Triple (· = b) (setAutoMode mode) (fun _ => Does cfg .enabled b) fun _ _ => False := by
  have hne : b.state.autoMode ≠ mode := by
    rintro rfl
    rw [hm] at ha
    cases ha
  refine .get_bind fun b₁ hb => ?_
  subst hb
  rw [if_pos hne]
  refine ⟨fun b h => ?_⟩
  subst h
  rw [hm]
  exact .enabled hm ha

theorem setAutoMode.keeps {b : Battle} (hm : b.state.autoMode = mode) :
    Triple (· = b) (setAutoMode mode) (fun _ => (· = b)) fun _ _ => False := by
  refine .get_bind fun b₁ hb => ?_
  subst hb
  rw [if_neg (not_not_intro hm)]
  exact .pure fun _ h => h

variable {cfg} in
theorem setAutoMode.course (hk : K .enabled) (mode : AutoMode) :
    Course cfg K (·.autoMode = .manual) (setAutoMode mode) fun _ => Anyhow := by
  cases ha : mode.isActive with
  | true =>
    refine .deed hk fun b hm => ?_
    exact (setAutoMode.enables cfg hm ha).conseq (fun _ h => h) (fun _ _ h => ⟨h, trivial⟩)
      fun _ _ => False.elim
  | false =>
    refine .of_eq fun b hm => ?_
    have keeps := setAutoMode.keeps (hm.trans (AutoMode.eq_manual ha).symm)
    refine keeps.conseq (fun _ h => h) ?_ fun _ _ => False.elim
    rintro _ _ rfl
    exact ⟨.refl, trivial⟩

theorem enableAuto.course (hk : InPlay K) (kind : AutoKind) :
    Course cfg K Anyhow (enableAuto cfg kind) fun _ => Anyhow := by
  refine .get_bind fun b _ => ?_
  split
  · exact .pure fun _ _ => trivial
  · next hm =>
    have hm : b.state.autoMode = .manual := AutoMode.eq_manual (eq_false_of_ne_true hm)
    have hc : cfg.Clicks "attack" := Settings.clicks_of_ne (by decide)
    have finish (mode : AutoMode) : Course cfg K (·.autoMode = .manual) (do
        if mode = .manual then setback .autoUnavailable
        setAutoMode mode) fun _ => Anyhow := by
      dsimp only
      split
      · exact .bind (.quiet (setback.quiet _)) fun _ => setAutoMode.course hk.enabled mode
      · exact setAutoMode.course hk.enabled mode
    refine .bind (R := fun _ s => s.autoMode = .manual) ?_ fun _ => ?_
    · exact .modify hk.released fun b' hb => ⟨.released, hb ▸ hm⟩
    · cases kind with
      | full => exact .bind (.quiet (tryFull.quiet cfg hc)) finish
      | semi => exact .bind (.quiet (trySemi.quiet cfg hc)) finish

theorem enabledControl_light (kind : AutoKind) : isWeighty (enabledControl kind) = false := by
  cases kind <;> rfl

/-- The mode that is noted as given up is the one before the suspension. -/
theorem setAutoMode.suspends {b : Battle} (hk : b.state.autoMode.kind? = some kind) :
    Triple (· = b) (do
        modifyState fun s => { s with suspendedAuto := some kind }
        setAutoMode .manual) (fun _ => Does cfg .suspended b) fun _ _ => False := by
  have hm : b.state.autoMode ≠ .manual := fun h => by rw [h] at hk; cases hk
  have hrun : (do
      modifyState fun s => { s with suspendedAuto := some kind }
      setAutoMode .manual : Play Unit).run.run b =
      (if b.state.autoMode ≠ .manual then do
        modifyState fun s => { s with autoMode := .manual }
        record (.autoModeChanged b.state.autoMode .manual)
      else pure () : Play Unit).run.run
        (b.inState fun s => { s with suspendedAuto := some kind }) := rfl
  refine ⟨fun b₁ hb => ?_⟩
  rw [hb, hrun, if_pos hm]
  exact .suspended hk

theorem suspendAuto.course (hk : K .suspended) :
    Course cfg K Anyhow (suspendAuto cfg) fun _ => Anyhow := by
  refine .get_bind fun b _ => ?_
  split
  · exact .pure fun _ _ => trivial
  · next kind hkind =>
    refine .bind (.quiet (press.quiet cfg (.inl (enabledControl_light kind)))) fun _ => ?_
    refine .deed hk fun b' hb => ?_
    rw [← hb] at hkind
    exact (setAutoMode.suspends cfg hkind).conseq (fun _ h => h) (fun _ _ h => ⟨h, trivial⟩)
      fun _ _ => False.elim

theorem resumeAuto.course (hk : InPlay K) :
    Course cfg K Anyhow (resumeAuto cfg) fun _ => Anyhow := by
  refine .get_bind fun b _ => ?_
  split
  · exact .pure fun _ _ => trivial
  · refine .bind (R := fun _ => Anyhow) ?_ fun _ => enableAuto.course cfg hk _
    exact .modify hk.released fun _ _ => ⟨.released, trivial⟩

/-! ### Ending turns -/

/-- A turn is counted; where the next one is out of range the battle is cut short. -/
theorem finishTurn.ends (b : Battle) :
    Triple (· = b) finishTurn (fun _ => Does cfg .turnEnded b)
      fun halt b' => halt = .overflow ∧ b' = b.noted (.turnEnded b.state.currentTurn) := by
  refine .turn_bind fun b₁ h => ?_
  subst h
  refine .bind (R := fun _ b' => b' = b₁.noted (.turnEnded b₁.state.currentTurn))
    (.modify fun _ h => h ▸ rfl) fun _ => ?_
  split
  · next hlimit =>
    refine .modify fun _ h => ?_
    subst h
    exact .turnEnded hlimit
  · exact .halt fun _ h => ⟨rfl, h⟩

theorem finishTurn.course (hk : K .turnEnded) (n : Nat) :
    Course cfg K (·.currentTurn = n) finishTurn fun _ s => s.currentTurn = n + 1 := by
  refine .deed hk fun b hb => (finishTurn.ends cfg b).spec.mono_value fun _ b' h => ⟨h, ?_⟩
  rw [h.of_turnEnded, hb]

variable {cfg} in
theorem finishTurn.anyhow (hk : K .turnEnded) :
    Course cfg K Anyhow finishTurn fun _ => Anyhow :=
  .of_turns (finishTurn.course cfg hk)

/-- A course that only does a deed which ends no turn goes on in the same turn. -/
theorem Course.inTurn {m : Play α} (hk : K d) (hd : d ≠ .turnEnded)
    (H : Course cfg (Eq d) Anyhow m fun _ => Anyhow) (n : Nat) :
    Course cfg K (·.currentTurn = n) m fun _ s => s.currentTurn = n := by
  refine .weaken (K := Eq d) (fun d' h => h ▸ hk) ?_
  refine (H.frame (S := (·.currentTurn = n)) fun d' b b' h hdoes hn => ?_).mono
    (fun _ h => ⟨trivial, h⟩) fun _ _ h => h.2
  rw [hdoes.currentTurn (h ▸ hd), hn]

theorem closeTurn.course (hf : K .fallen) (he : K .turnEnded) (submit : Bool) (n : Nat) :
    Course cfg K (·.currentTurn = n) (closeTurn cfg submit) fun _ s => s.currentTurn = n + 1 := by
  have rest : Course cfg K (·.currentTurn = n) (do
      discard (waitForAttack cfg resolveTries)
      finishTurn
      check cfg
      pressNext cfg) fun _ s => s.currentTurn = n + 1 := by
    refine .bind ?_ fun _ => .bind (finishTurn.course cfg he n) fun _ => ?_
    · exact .inTurn cfg hf nofun (.discard (waitForAttack.course cfg rfl _)) n
    · exact .bind ((check.course cfg).mono_value fun _ _ h => h.1) fun _ => pressNext.course cfg
  unfold closeTurn
  split
  · exact .bind (submitTurn.course cfg) fun _ => rest
  · refine .bind (.inTurn cfg hf nofun (awaitAutoTurn.course cfg rfl _ _) n) fun done => ?_
    split
    · exact .bind (submitTurn.course cfg) fun _ => rest
    · exact rest

theorem endTurn.course (hk : InPlay K) : Course cfg K Anyhow (endTurn cfg) fun _ => Anyhow := by
  refine .bind (resumeAuto.course cfg hk) fun _ => ?_
  refine .bind (.quiet isByHand.quiet) fun byHand => ?_
  exact .of_turns (closeTurn.course cfg hk.fallen hk.turnEnded byHand)

/-- Ends one turn on the way to the turn of a marker. -/
def closeNext (last : Bool) : Play Unit := do
  if last then suspendAuto cfg
  dismissDialogs
  closeTurn cfg (← isByHand)

theorem fastForward_succ (left : Nat) : fastForward cfg (left + 1) = (do
    closeNext cfg (left == 0)
    fastForward cfg left) := by
  rw [fastForward, closeNext]
  cases left == 0 <;> simp [bind_assoc]

theorem closeNext.course (hf : K .fallen) (he : K .turnEnded) (hs : K .suspended) (last : Bool)
    (n : Nat) :
    Course cfg K (·.currentTurn = n) (closeNext cfg last) fun _ s => s.currentTurn = n + 1 := by
  have close : Course cfg K (·.currentTurn = n) (do
      dismissDialogs
      closeTurn cfg (← isByHand)) fun _ s => s.currentTurn = n + 1 := by
    refine .bind (.quiet dismissDialogs.quiet) fun _ => ?_
    refine .bind (.quiet isByHand.quiet) fun byHand => ?_
    exact closeTurn.course cfg hf he byHand n
  unfold closeNext
  split
  · exact .bind (.inTurn cfg hs nofun (suspendAuto.course cfg rfl) n) fun _ => close
  · exact close

theorem fastForward.course (hf : K .fallen) (he : K .turnEnded) (hs : K .suspended)
    (left n : Nat) :
    Course cfg K (·.currentTurn = n) (fastForward cfg left)
      fun _ s => s.currentTurn = n + left := by
  induction left generalizing n with
  | zero => exact .pure fun _ h => h
  | succ left ih =>
    rw [fastForward_succ]
    refine .bind (closeNext.course cfg hf he hs _ n) fun _ => ?_
    refine (ih (n + 1)).mono_value fun _ s h => ?_
    rw [h]
    omega

/-! ### Markers -/

/-- What may be done to reach the turn of a marker. -/
structure Reaches (K : Deed → Prop) : Prop extends InPlay K where
  suspended : K .suspended
  aimed : K .aimed

theorem Deed.Reaching.reaches : Reaches Deed.Reaching where
  turnEnded := trivial
  fallen := trivial
  enabled := trivial
  released := trivial
  suspended := trivial
  aimed := trivial

structure OnMarker (K : Deed → Prop) : Prop extends Reaches K where
  opened : K .opened
  skipped : K .skipped

/-- Reaches the turn of a marker, up to the event that tells what it has come to. -/
def reachTurn (marker : Nat) : Play Event := do
  dismissDialogs
  resumeAuto cfg
  let current ← currentTurn
  match cfg.strategy.turnSync with
  | .sequential =>
    modifyState fun s => { s with targetTurn := current }
    return .turnStarted current
  | .strict =>
    modifyState fun s => { s with targetTurn := marker }
    if marker < current then return .markerSkipped marker current
    else
      fastForward cfg (marker - current)
      return .turnStarted (← currentTurn)

theorem enterTurn_eq (marker : Nat) : enterTurn cfg marker = (do
    record (← reachTurn cfg marker)) := by
  unfold enterTurn reachTurn
  cases cfg.strategy.turnSync with
  | sequential => simp only [bind_assoc, pure_bind]
  | strict =>
    simp only [bind_assoc]
    congr; funext _; congr; funext _; congr; funext current
    congr; funext _
    split <;> simp only [bind_assoc, pure_bind]

/-- What a marker comes to: its block is opened, or its turn has passed. -/
inductive Comes (marker : Nat) : Event → BattleState → Prop
  | opened (ht : s.targetTurn = s.currentTurn)
      (hs : cfg.strategy.turnSync = .strict → s.targetTurn = marker) :
    Comes marker (.turnStarted s.currentTurn) s
  | passed (ht : s.targetTurn = marker) (hp : marker < s.currentTurn) :
    Comes marker (.markerSkipped marker s.currentTurn) s

/-- The block of a turn is not ahead of the turn being played, and in strict mode it is the
block of the turn that the marker names. -/
def Entered (marker : Nat) (s : BattleState) : Prop :=
  s.targetTurn ≤ s.currentTurn ∧ (cfg.strategy.turnSync = .strict → s.targetTurn = marker)

theorem Comes.entered {e : Event} {s : BattleState} (h : Comes cfg marker e s) :
    Entered cfg marker s := by
  cases h with
  | opened ht hs => exact ⟨Nat.le_of_eq ht, hs⟩
  | passed ht hp =>
    subst ht
    exact ⟨Nat.le_of_lt hp, fun _ => rfl⟩

/-- Ending turns does not change which block is being read. -/
theorem Course.aimed {m : Play α} {P : BattleState → Prop} {Q : α → BattleState → Prop}
    (hk : Reaches K)
    (H : Course cfg (fun d => d = .fallen ∨ d = .turnEnded ∨ d = .suspended) P m Q)
    (target : Nat) :
    Course cfg K (fun s => P s ∧ s.targetTurn = target) m fun a s =>
      Q a s ∧ s.targetTurn = target := by
  refine .weaken (fun d hd => ?_) (H.frame fun d b b' hd h ht => ?_)
  · rcases hd with rfl | rfl | rfl
    · exact hk.fallen
    · exact hk.turnEnded
    · exact hk.suspended
  · have hne : d ≠ .aimed := by rcases hd with rfl | rfl | rfl <;> nofun
    rw [h.targetTurn hne, ht]

theorem closeNext.aimed (hk : Reaches K) (last : Bool) (n target : Nat) :
    Course cfg K (fun s => s.currentTurn = n ∧ s.targetTurn = target) (closeNext cfg last)
      fun _ s => s.currentTurn = n + 1 ∧ s.targetTurn = target :=
  .aimed cfg hk (closeNext.course cfg (.inl rfl) (.inr (.inl rfl)) (.inr (.inr rfl)) last n) target

theorem fastForward.aimed (hk : Reaches K) (left n target : Nat) :
    Course cfg K (fun s => s.currentTurn = n ∧ s.targetTurn = target) (fastForward cfg left)
      fun _ s => s.currentTurn = n + left ∧ s.targetTurn = target :=
  .aimed cfg hk (fastForward.course cfg (.inl rfl) (.inr (.inl rfl)) (.inr (.inr rfl)) left n)
    target

theorem reachTurn.course (hk : Reaches K) (marker : Nat) :
    Course cfg K Anyhow (reachTurn cfg marker) (Comes cfg marker) := by
  refine .bind (.quiet dismissDialogs.quiet) fun _ => ?_
  refine .bind (resumeAuto.course cfg hk.toInPlay) fun _ => .turn_bind fun current => ?_
  split
  · next hsync =>
    refine .bind (R := fun _ s => s.currentTurn = current ∧ s.targetTurn = current) ?_ fun _ => ?_
    · exact .modify hk.aimed fun b hb => ⟨.aimed current, hb.1, rfl⟩
    · refine .pure fun s ⟨hc, ht⟩ => ?_
      rw [← hc]
      exact .opened (ht.trans hc.symm) fun hstrict => by rw [hstrict] at hsync; cases hsync
  · refine .bind (R := fun _ s => s.currentTurn = current ∧ s.targetTurn = marker) ?_ fun _ => ?_
    · exact .modify hk.aimed fun b hb => ⟨.aimed marker, hb.1, rfl⟩
    split
    · next hpast =>
      refine .pure fun s ⟨hc, ht⟩ => ?_
      subst hc
      exact .passed ht hpast
    · next hahead =>
      refine .bind (fastForward.aimed cfg hk _ _ marker) fun _ => .turn_bind fun reached => ?_
      refine .pure fun s ⟨hr, hc, ht⟩ => ?_
      rw [← hr]
      exact .opened (by omega) fun _ => ht

theorem enterTurn.course (hk : OnMarker K) (marker : Nat) :
    Course cfg K Anyhow (enterTurn cfg marker) fun _ => Entered cfg marker := by
  rw [enterTurn_eq]
  refine .bind (reachTurn.course cfg hk.toReaches marker) fun e => .of_eq fun b hb => ?_
  have hentered := hb.entered
  refine .modify fun _ h => ?_
  subst h
  refine ⟨.single ?_, hentered⟩
  cases hb with
  | opened => exact .deed hk.opened .opened
  | passed _ hp => exact .deed hk.skipped (.skipped hp)

end Play
end BattlePilot
