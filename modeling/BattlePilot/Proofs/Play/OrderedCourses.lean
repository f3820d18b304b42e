import BattlePilot.Proofs.Play.Order
import BattlePilot.Proofs.Play.TurnCourses

/-! The courses that look for an end and those that bring turns to their end are orderly. -/

namespace BattlePilot.Play
open Battle Relation

variable (cfg : Settings) {L : Licence} {base : Journal}

/-! ### Looking for an end -/

theorem sees.enters (name : String) (answers : List (String × Bool)) (j : Journal) :
    Triple (fun b => b.journal = Journal.ofLook b.screen.now answers ++ j) (sees name)
      (fun seen b => b.journal = Journal.ofLook b.screen.now ((name, seen) :: answers) ++ j)
      fun _ _ => False := by
  refine ⟨fun b h => ?_⟩
  rw [sees_run]
  exact congrArg (_ :: ·) h

/-- A look for an end asks nothing but what its answers tell. -/
theorem classify.enters (j : Journal) :
    Triple (·.journal = j) (classify cfg) (fun found b => ∃ answers, Answers found answers ∧
      b.journal = Journal.ofLook b.screen.now answers ++ j) fun _ _ => False := by
  refine .get_bind fun b hb => ?_
  split
  · exact .pure fun _ h => ⟨_, .timeExceeded, h ▸ hb⟩
  split
  · exact .pure fun _ h => ⟨_, .left, h ▸ hb⟩
  refine .bind ((sees.enters "no_loot" [] j).mono_start fun _ h => h ▸ hb) fun seen => ?_
  cases seen with
  | true => exact .pure fun _ h => ⟨_, .noLoot, h⟩
  | false =>
    refine .bind (sees.enters "battle_concluded" _ j) fun seen => ?_
    cases seen with
    | true => exact .pure fun _ h => ⟨_, .battleConcluded, h⟩
    | false =>
      refine .bind (sees.enters "exp_gained" _ j) fun seen => ?_
      cases seen with
      | true => exact .pure fun _ h => ⟨_, .expGained, h⟩
      | false =>
        refine .bind (sees.enters "loot_collected" _ j) fun seen => ?_
        cases seen with
        | true => exact .pure fun _ h => ⟨_, .lootCollected, h⟩
        | false => exact .pure fun _ h => ⟨_, .nothing, h⟩

theorem Pressed.dismissal {b₀ b : Battle} (h : Pressed "reload" b₀ found b) :
    ∃ d, Dismissal d ∧ b.journal = d ++ b₀.journal := by
  cases h with
  | clicked h =>
    obtain ⟨b₁, p, answer, s, ha, -, rfl⟩ := h
    obtain ⟨looks, hj, hlooks⟩ := ha.entries
    exact ⟨_, .clicked hlooks, congrArg (_ :: ·) hj⟩
  | missed h =>
    obtain ⟨looks, hj, hlooks⟩ := h.entries
    exact ⟨looks, .missed hlooks, hj⟩

/-- An end was looked for as the last thing, and none was found. -/
def JustLooked (L : Licence) (base : Journal) (b : Battle) : Prop :=
  ∃ clock answers j, Answers none answers ∧ Ordered L base .due j ∧
    b.journal = Journal.ofLook clock answers ++ j

theorem JustLooked.ordered {b : Battle} (h : JustLooked L base b) :
    Ordered L base .free b.journal := by
  obtain ⟨clock, answers, j, ha, hj, h⟩ := h
  rw [h]
  exact .looked ha hj

/-- A look for an end, and what is done about the end that it finds. -/
theorem check.enters (b₀ : Battle) :
    Triple (· = b₀) (check cfg) (fun _ b => ∃ answers, Answers none answers ∧
      b.journal = Journal.ofLook b.screen.now answers ++ b₀.journal)
      fun halt b => EndFound b₀.journal halt b.journal := by
  have look : Triple (· = b₀) (classify cfg) (fun found b => ∃ answers, Answers found answers ∧
      b.journal = Journal.ofLook b.screen.now answers ++ b₀.journal)
      fun halt b => EndFound b₀.journal halt b.journal :=
    (classify.enters cfg b₀.journal).conseq (fun _ h => h ▸ rfl) (fun _ _ h => h)
      fun _ _ => False.elim
  refine .bind look fun found => ?_
  cases found with
  | none => exact .pure fun _ h => h
  | some outcome =>
    dsimp only
    split
    · next ho =>
      subst ho
      refine .of_eq fun b ⟨answers, ha, hb⟩ => ?_
      have found {b' : Battle} {d : Journal} {halt : Halt} (hd : Dismissal d)
          (hj : b'.journal = d ++ b.journal)
          (hh : halt = .ended .battleConcluded ∨ halt = .overflow) :
          EndFound b₀.journal halt b'.journal := by
        rw [hj, hb, ← List.append_assoc]
        exact .dismissed ha hd hh
      have dismiss : Triple (· = b) (press cfg "reload")
          (fun _ b' => ∃ d, Dismissal d ∧ b'.journal = d ++ b.journal)
          fun halt b' => EndFound b₀.journal halt b'.journal := by
        refine .discard ((findAndClick.pressed cfg "reload" usualTries b).conseq
          (fun _ h => h) (fun _ _ h => h.dismissal) ?_)
        rintro _ b' ⟨rfl, h⟩
        obtain ⟨d, hj, hlooks⟩ := h.entries
        exact found (.missed hlooks) hj (.inr rfl)
      refine .bind dismiss fun _ => ⟨fun b' ⟨d, hd, hj⟩ => ?_⟩
      exact found hd hj (.inl rfl)
    · next ho =>
      refine ⟨fun b ⟨answers, ha, hb⟩ => ?_⟩
      have hfound : EndFound b₀.journal (.ended outcome)
          (Journal.ofLook b.screen.now answers ++ b₀.journal) := .ended ha ho
      rw [← hb] at hfound
      exact hfound

theorem check.passes (b : Battle) :
    Triple (· = b) (check cfg) (fun _ b' => (∃ answers, Answers none answers ∧
      b'.journal = Journal.ofLook b'.screen.now answers ++ b.journal) ∧ b'.state = b.state)
      fun halt b' => EndFound b.journal halt b'.journal := by
  apply ((check.enters cfg b).both (check.alone cfg b)).conseq
  · exact fun _ h => ⟨h, h⟩
  · exact fun _ _ h => ⟨h.1, h.2.1.state⟩
  · exact fun _ _ h => h.1

theorem check.looks :
    Triple (Ordered L base .due ·.journal) (check cfg)
      (fun _ => JustLooked L base) fun halt b => Stops L base halt b.journal := by
  refine .of_eq fun b₀ h₀ => (check.enters cfg b₀).conseq (fun _ h => h) ?_ ?_
  · rintro _ b ⟨answers, ha, hb⟩
    exact ⟨_, answers, _, ha, h₀, hb⟩
  · exact fun _ _ hf => .found h₀ hf

theorem check.orderly : Orderly L .due (check cfg) fun _ => .free :=
  fun _ => (check.looks cfg).mono_value fun _ _ h => h.ordered

/-! ### What may be done at any time -/

theorem Within.apart {m : Play α} (hm : Quiet (· ≠ "attack") m) : Within Apart m :=
  hm.mono fun _ _ => Aside.apart

theorem record.apart {e : Event} (he : e.isRemark = true) : Within Apart (record e) :=
  .step fun _ => .remarked he rfl

theorem modifyState.apart (f : BattleState → BattleState) : Within Apart (modifyState f) :=
  .step fun _ => .kept rfl

theorem leaveFallen.apart (indicator : Option Point) :
    Within Apart (leaveFallen cfg indicator) := by
  refine (leaveFallen.asks (W := (· ≠ "attack")) cfg (by decide) indicator).mono fun b b' ha => ?_
  refine .asked (ha.mono fun op hop => ?_)
  rcases hop with hop | rfl
  · exact hop.not_strikes
  · rfl

theorem wipeCheck.apart : Within Apart (wipeCheck cfg) := by
  refine .bind (Within.apart (look.quiet _)) fun indicator => ?_
  refine .bind (.either (.pure _) (Within.apart (sees.quiet _))) fun seen => ?_
  split
  · refine .bind_option (leaveFallen.apart cfg indicator) (fun response => ?_) (.pure _)
    refine .bind (modifyState.apart _) fun _ => .get_bind fun b => ?_
    exact .bind (record.apart rfl) fun _ => .pure _
  · exact .pure _

theorem waitForAttack.apart : ∀ tries, Within Apart (waitForAttack cfg tries)
  | 0 => .pure _
  | tries + 1 => by
    have ready : Within Apart (either (return (← get).state.retreated) seesTurn) :=
      .either (.get_bind fun _ => .pure _) (Within.apart seesTurn.quiet)
    have concluded : Within Apart (either (sees "battle_concluded") (sees "exp_gained")) :=
      .either (Within.apart (sees.quiet _)) (Within.apart (sees.quiet _))
    refine .bind ready fun seen => ?_
    split
    · exact .pure _
    · refine .bind (.onlyIf ?_) fun done => ?_
      · refine .bind (Within.apart dismissDialogs.quiet) fun _ => ?_
        exact .bind (.discard (wipeCheck.apart cfg)) fun _ => concluded
      · split
        · exact .pure _
        · exact .bind (Within.apart (wait.quiet _)) fun _ => waitForAttack.apart tries

theorem setAutoMode.apart (mode : AutoMode) : Within Apart (setAutoMode mode) := by
  refine .get_bind fun b => ?_
  dsimp only
  split
  · exact .bind (modifyState.apart _) fun _ => record.apart rfl
  · exact .pure _

theorem suspendAuto.apart : Within Apart (suspendAuto cfg) := by
  refine .get_bind fun b => ?_
  split
  · exact .pure _
  · next kind _ =>
    refine .bind (Within.apart (press.quiet cfg (.inl (enabledControl_light kind)))) fun _ => ?_
    exact .bind (modifyState.apart _) fun _ => setAutoMode.apart _

/-! ### The attack button -/

/-- Clicking the attack button submits a turn, unless the button is not there. -/
theorem findAndClick.orderly (tries : Nat) :
    Orderly L .free (findAndClick cfg "attack" tries) Phase.ofClick := by
  have apart {b₀ b : Battle} (h : Asks (ScreenOp.Seeks "attack") b₀ b) :
      ReflTransGen Apart b₀ b :=
    ReflTransGen.mono (fun _ _ h => .asked (h.mono fun _ => ScreenOp.Seeks.not_strikes)) _ _ h
  intro base
  refine .of_eq fun b₀ h₀ => ?_
  have seek {b : Battle} (h : Asks (ScreenOp.Seeks "attack") b₀ b) :
      Ordered L base .free b.journal := Apart.ordered_many rfl (apart h) h₀
  refine (findAndClick.pressed cfg "attack" tries b₀).conseq (fun _ h => h) ?_ ?_
  · intro clicked b h
    cases h with
    | clicked h =>
      obtain ⟨b₁, p, answer, s, ha, -, rfl⟩ := h
      exact (seek ha).attacked
    | missed h => exact seek h
  · rintro _ b ⟨rfl, h⟩
    exact .overflow (seek h)

theorem findAndClick.struck (tries : Nat) :
    Orderly L .free (findAndClick cfg "attack" tries) fun _ => .struck := by
  refine (findAndClick.orderly cfg tries).widen fun clicked => ?_
  cases clicked with
  | true => exact .inr rfl
  | false => exact .inl rfl

theorem submitTurn.orderly : Orderly L .free (submitTurn cfg) fun _ => .struck := by
  refine .bind (findAndClick.struck cfg _).discard fun _ => ?_
  refine .bind (.quiet rfl (settleAttack.quiet cfg)) fun _ => ?_
  exact .quiet rfl (reloadAfterAttack.quiet cfg)

theorem trySemiAfterAttack.orderly :
    Orderly L .free (trySemiAfterAttack cfg) fun _ => .struck :=
  .bind (findAndClick.struck cfg _).discard fun _ =>
    .quiet rfl (findAndClick.quiet cfg (.inl rfl) _)

theorem tryFull.orderly : Orderly L .free (tryFull cfg) fun _ => .struck := by
  refine .bind (.quiet rfl (findAndClick.quiet cfg (.inl rfl) _)) fun clicked => ?_
  split
  · exact (Orderly.pure _).ready
  · refine .bind (trySemiAfterAttack.orderly cfg) fun clicked => ?_
    split <;> exact .pure _

theorem trySemi.orderly : Orderly L .free (trySemi cfg) fun _ => .struck := by
  refine .bind (.quiet rfl (find.quiet cfg _ _)) fun found => ?_
  split
  · exact (Orderly.pure _).ready
  · refine .bind (trySemiAfterAttack.orderly cfg) fun clicked => ?_
    split
    · exact .pure _
    · refine .bind (.quiet rfl (findAndClick.quiet cfg (.inl rfl) _)) fun clicked => ?_
      split <;> exact .pure _

/-- An attempt at automation is told as a setback or as a change of the mode, which was manual. -/
theorem enableAuto.finish (mode : AutoMode) :
    Triple (fun b => Ordered L base .struck b.journal ∧ b.state.autoMode = .manual) (do
        if mode = .manual then setback .autoUnavailable
        setAutoMode mode) (fun _ b => Ordered L base .free b.journal)
      fun halt b => Stops L base halt b.journal := by
  by_cases hm : mode = .manual
  · rw [if_pos hm]
    refine .bind (R := fun _ b => Ordered L base .free b.journal) ?_ fun _ => ?_
    · refine .turn_bind fun b hb => .modify fun _ h => ?_
      subst h
      exact .told (e := .recovered _ .autoUnavailable) rfl hb.1
    · exact Orderly.apart rfl (setAutoMode.apart mode) base
  · rw [if_neg hm]
    refine .get_bind fun b hb => ?_
    have hne : b.state.autoMode ≠ mode := by
      rw [hb.2]
      exact Ne.symm hm
    rw [if_pos hne]
    refine .bind (R := fun _ b' => b'.journal = b.journal) (.modify fun _ h => h ▸ rfl)
      fun _ => .modify fun b' h => ?_
    have htold := hb.1.told (e := .autoModeChanged b.state.autoMode mode) rfl
    rw [← h] at htold
    exact htold

theorem enableAuto.orderly (kind : AutoKind) :
    Orderly L .free (enableAuto cfg kind) fun _ => .free := by
  have attempt (m : Play AutoMode) (hm : Orderly L .free m fun _ => .struck)
      (hq : Quiet (fun _ => True) m) (base : Journal) : Triple
        (fun b => Ordered L base .free b.journal ∧ b.state.autoMode = .manual) (do
          let mode ← m
          if mode = .manual then setback .autoUnavailable
          setAutoMode mode) (fun _ b => Ordered L base .free b.journal)
        fun halt b => Stops L base halt b.journal := by
    refine .bind (.of_eq fun b hb => ?_) enableAuto.finish
    have attempted := (hm base).both (hq.entire b)
    refine attempted.conseq (fun _ h => ⟨h ▸ hb.1, h⟩) ?_ fun _ _ h => h.1
    intro _ b' ⟨hj, hs⟩
    refine ⟨hj, ?_⟩
    rw [Asides.state hs]
    exact hb.2
  intro base
  refine .get_bind fun b hb => ?_
  split
  · exact .pure fun _ h => h ▸ hb
  · next hactive =>
    have hmanual : b.state.autoMode = .manual :=
      AutoMode.eq_manual (eq_false_of_ne_true hactive)
    refine .bind (R := fun _ b => Ordered L base .free b.journal ∧
      b.state.autoMode = .manual) (.modify fun _ h => ?_) fun _ => ?_
    · subst h
      exact ⟨hb, hmanual⟩
    · cases kind with
      | full => exact attempt _ (tryFull.orderly cfg) (tryFull.quiet cfg trivial) base
      | semi => exact attempt _ (trySemi.orderly cfg) (trySemi.quiet cfg trivial) base

theorem resumeAuto.orderly : Orderly L .free (resumeAuto cfg) fun _ => .free := by
  refine .get_bind fun b => ?_
  split
  · exact .pure _
  · exact .bind (.modifyState _) fun _ => enableAuto.orderly cfg _

/-! ### Ending turns -/

theorem finishTurn.orderly : Orderly L .struck finishTurn fun _ => .due := by
  intro base
  refine .turn_bind fun b hb => ?_
  refine .bind (R := fun _ b' => Ordered L base .due b'.journal) ?_ fun _ => ?_
  · refine .modify fun _ h => ?_
    subst h
    exact hb.turnEnded
  · split
    · exact Orderly.modifyState _ base
    · exact Orderly.overflow base

theorem awaitAutoTurn.orderly :
    ∀ looks left, Orderly L .free (awaitAutoTurn cfg looks left) fun _ => .free
  | 0, _ => .pure _
  | looks + 1, left => by
    refine .bind (check.orderly cfg).ready fun _ => ?_
    refine .bind (.quiet rfl seesTurn.quiet) fun ready => ?_
    split
    · exact .pure _
    · have rest : Orderly L .free (do
          wait cfg.retry.pollInterval
          awaitAutoTurn cfg looks (left || !ready)) fun _ => .free :=
        .bind (.quiet rfl (wait.quiet _)) fun _ => awaitAutoTurn.orderly looks _
      dsimp only
      split
      · refine .bind (.quiet rfl dismissDialogs.quiet) fun _ => ?_
        exact .bind (.apart rfl (.discard (wipeCheck.apart cfg))) fun _ => rest
      · exact rest

theorem pressNext.orderly : Orderly L .free (pressNext cfg) fun _ => .free :=
  .quiet rfl (pressNext.quiet cfg (by decide))

theorem closeTurn.orderly (submit : Bool) :
    Orderly L .free (closeTurn cfg submit) fun _ => .free := by
  have rest : Orderly L .struck (do
      discard (waitForAttack cfg resolveTries)
      finishTurn
      check cfg
      pressNext cfg) fun _ => .free := by
    refine .bind (.apart rfl (.discard (waitForAttack.apart cfg _))) fun _ => ?_
    refine .bind finishTurn.orderly fun _ => .bind (check.orderly cfg) fun _ => ?_
    exact pressNext.orderly cfg
  unfold closeTurn
  split
  · exact .bind (submitTurn.orderly cfg) fun _ => rest
  · refine .bind (awaitAutoTurn.orderly cfg _ _) fun done => ?_
    split
    · exact .bind (submitTurn.orderly cfg) fun _ => rest
    · exact rest.ready

theorem endTurn.orderly : Orderly L .free (endTurn cfg) fun _ => .free := by
  refine .bind (resumeAuto.orderly cfg) fun _ => .bind (.quiet rfl isByHand.quiet) fun byHand => ?_
  exact closeTurn.orderly cfg byHand

theorem closeNext.orderly (last : Bool) :
    Orderly L .free (closeNext cfg last) fun _ => .free := by
  have close : Orderly L .free (do
      dismissDialogs
      closeTurn cfg (← isByHand)) fun _ => .free := by
    refine .bind (.quiet rfl dismissDialogs.quiet) fun _ => ?_
    exact .bind (.quiet rfl isByHand.quiet) fun byHand => closeTurn.orderly cfg byHand
  unfold closeNext
  split
  · exact .bind (.apart rfl (suspendAuto.apart cfg)) fun _ => close
  · exact close

theorem fastForward.orderly (left : Nat) :
    Orderly L .free (fastForward cfg left) fun _ => .free := by
  induction left with
  | zero => exact .pure _
  | succ left ih =>
    rw [fastForward_succ]
    exact .bind (closeNext.orderly cfg _) fun _ => ih

/-- Until it is told what a marker has come to, no block is opened. -/
theorem reachTurn.orderly (marker : Nat) :
    Orderly L .free (reachTurn cfg marker) fun _ => .free := by
  refine .bind (.quiet rfl dismissDialogs.quiet) fun _ => ?_
  refine .bind (resumeAuto.orderly cfg) fun _ => .turn_bind fun current => ?_
  split
  · exact .bind (.modifyState _) fun _ => .pure _
  · refine .bind (.modifyState _) fun _ => ?_
    split
    · exact .pure _
    · exact .bind (fastForward.orderly cfg _) fun _ => .turn_bind fun reached => .pure _

theorem enterTurn.orderly (ho : L.opens) (marker : Nat) :
    Orderly L .free (enterTurn cfg marker) fun _ => .free := by
  intro base
  rw [enterTurn_eq]
  refine .bind (.of_eq fun b hb => ?_) fun e =>
    .modify (P := fun b => Ordered L base .free b.journal ∧ Comes cfg marker e b.state) ?_
  · have comes := (reachTurn.course cfg Deed.Reaching.reaches marker).alone b trivial
    exact ((reachTurn.orderly cfg marker base).both comes).conseq (fun _ h => ⟨h ▸ hb, h⟩)
      (fun _ _ h => ⟨h.1, h.2.2⟩) fun _ _ h => h.1
  · rintro b ⟨hb, hc⟩
    cases hc with
    | opened => exact hb.opened ho
    | passed => exact hb.remarked rfl rfl

end BattlePilot.Play
