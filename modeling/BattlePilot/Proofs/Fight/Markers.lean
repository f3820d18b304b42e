import BattlePilot.Proofs.Fight.Replayed
import BattlePilot.Proofs.Play.OrderedCourses
import BattlePilot.Proofs.Play.Telling

/-! Markers. In strict mode a marker of a later turn ends exactly the turns that are missing, and a
marker of an earlier turn opens no block. -/

namespace BattlePilot

namespace Event

/-- Whether the event tells what a marker has come to. -/
def isMarker : Event → Bool
  | turnStarted _ | markerSkipped .. => true
  | _ => false

end Event

namespace Battle

variable {cfg : Settings} {K : Deed → Prop} {b b₁ b' : Battle} {since first second : List Event}

/-- The events from one battle to another: they count the turns in between, and tell of no
marker. -/
structure Counts (b : Battle) (since : List Event) (b' : Battle) : Prop where
  events : b'.journal.events = b.journal.events ++ since
  forward : b.state.currentTurn ≤ b'.state.currentTurn
  ended : since.filterMap Event.endedTurn? =
    List.range' b.state.currentTurn (b'.state.currentTurn - b.state.currentTurn)
  unmarked : ∀ e ∈ since, e.isMarker = false

namespace Counts

theorem silent (hj : b'.journal.events = b.journal.events)
    (ht : b'.state.currentTurn = b.state.currentTurn) : Counts b [] b' where
  events := by rw [hj, List.append_nil]
  forward := Nat.le_of_eq ht.symm
  ended := by simp [ht]
  unmarked := nofun

theorem noted {e : Event} (hj : b'.journal.events = b.journal.events ++ [e])
    (ht : b'.state.currentTurn = b.state.currentTurn) (he : e.endedTurn? = none)
    (hm : e.isMarker = false) : Counts b [e] b' where
  events := hj
  forward := Nat.le_of_eq ht.symm
  ended := by simp [ht, he]
  unmarked := by simpa using hm

theorem turnEnded (hj : b'.journal.events = b.journal.events ++ [.turnEnded b.state.currentTurn])
    (ht : b'.state.currentTurn = b.state.currentTurn + 1) :
    Counts b [.turnEnded b.state.currentTurn] b' where
  events := hj
  forward := by omega
  ended := by
    have hone : b.state.currentTurn + 1 - b.state.currentTurn = 1 := by omega
    rw [ht, hone]
    rfl
  unmarked := by simp [Event.isMarker]

theorem trans (h : Counts b first b₁) (h' : Counts b₁ second b') :
    Counts b (first ++ second) b' where
  events := by rw [h'.events, h.events, List.append_assoc]
  forward := Nat.le_trans h.forward h'.forward
  ended := by
    obtain ⟨k, hk⟩ := Nat.exists_eq_add_of_le h.forward
    obtain ⟨l, hl⟩ := Nat.exists_eq_add_of_le h'.forward
    have hfirst : b₁.state.currentTurn - b.state.currentTurn = k := by omega
    have hsecond : b'.state.currentTurn - b₁.state.currentTurn = l := by omega
    have hboth : b'.state.currentTurn - b.state.currentTurn = k + l := by omega
    rw [List.filterMap_append, h.ended, h'.ended, hfirst, hsecond, hboth, hk]
    exact List.range'_append_1
  unmarked e he := by
    rcases List.mem_append.1 he with he | he
    · exact h.unmarked e he
    · exact h'.unmarked e he

end Counts

theorem Does.counts (h : Does cfg d b b') (ho : d ≠ .opened) (hs : d ≠ .skipped) :
    ∃ since, Counts b since b' := by
  cases h with
  | turnEnded => exact ⟨_, .turnEnded (Journal.events_event ..) rfl⟩
  | released | attacksOn | aimed => exact ⟨[], .silent rfl rfl⟩
  | enabled | suspended | wiped =>
    exact ⟨_, .noted (Journal.events_event ..) rfl rfl rfl⟩
  | backedOut =>
    refine ⟨_, .noted (e := .partyWiped b.state.currentTurn .backOut) ?_ rfl rfl rfl⟩
    exact (Journal.events_event ..).trans (congrArg (· ++ [_]) (Journal.events_call ..))
  | dispatched hf he hn hg =>
    exact ⟨_, .noted (Does.dispatched hf he hn hg).dispatched_events rfl rfl rfl⟩
  | left hf hh => exact ⟨_, .noted (Does.left hf hh).dispatched_events rfl rfl rfl⟩
  | opened => exact absurd rfl ho
  | skipped => exact absurd rfl hs

theorem Step.counts (ho : ¬ K .opened) (hs : ¬ K .skipped) (h : Step cfg K b b') :
    ∃ since, Counts b since b' := by
  cases h with
  | aside h =>
    cases h with
    | ask h => exact ⟨[], .silent h.events (by rw [h.state])⟩
    | setback | reloaded => exact ⟨_, .noted (Journal.events_event ..) rfl rfl rfl⟩
    | aim => exact ⟨[], .silent rfl rfl⟩
  | deed hk h => exact h.counts (fun hd => ho (hd ▸ hk)) fun hd => hs (hd ▸ hk)

theorem Moves.counts (ho : ¬ K .opened) (hs : ¬ K .skipped) (h : Moves cfg K b b') :
    ∃ since, Counts b since b' := by
  induction h with
  | refl => exact ⟨[], .silent rfl rfl⟩
  | tail _ h ih =>
    obtain ⟨first, hfirst⟩ := ih
    obtain ⟨second, hsecond⟩ := h.counts ho hs
    exact ⟨first ++ second, hfirst.trans hsecond⟩

def SameTurn (b b' : Battle) : Prop := b'.state.currentTurn = b.state.currentTurn

/-- Only automation that is turned on or gives way changes the mode. -/
theorem Does.autoMode (h : Does cfg d b b') (he : d ≠ .enabled) (hs : d ≠ .suspended) :
    b'.state.autoMode = b.state.autoMode := by
  cases h with
  | enabled => exact absurd rfl he
  | suspended => exact absurd rfl hs
  | _ => rfl

end Battle

namespace Play
open Battle

variable (cfg : Settings) {K : Deed → Prop}

/-! ### Turns along a course -/

variable {cfg}

/-- A course that ends no turn stays in its turn, whatever comes of it. -/
theorem Course.sameTurn {m : Play α} (H : Course cfg K Anyhow m fun _ => Anyhow)
    (hK : ¬ K .turnEnded) (n : Nat) : Spec (·.state.currentTurn = n) m
      (fun _ b => b.state.currentTurn = n) fun _ b => b.state.currentTurn = n := by
  have same {b b' : Battle} (hb : b.state.currentTurn = n) (h : Moves cfg K b b') :
      b'.state.currentTurn = n :=
    h.keeps_state (R := fun s => s.currentTurn = n)
      (fun _ _ _ hk hd ht => (hd.currentTurn fun h => hK (h ▸ hk)).trans ht) hb
  refine .of_eq fun b hb => (H.alone b trivial).mono_result (fun _ _ h => same hb h.1) ?_
  rintro _ _ ⟨b₁, h, -, rfl⟩
  have hn := same hb h
  exact hn

/-- A course that neither turns automation on nor lets it give way keeps the mode. -/
theorem Course.sameMode {m : Play α} (H : Course cfg K Anyhow m fun _ => Anyhow)
    (he : ¬ K .enabled) (hs : ¬ K .suspended) (mode : AutoMode) :
    Course cfg K (·.autoMode = mode) m fun _ s => s.autoMode = mode := by
  refine (H.frame (S := fun s => s.autoMode = mode) fun d b b' hk hd hm => ?_).mono
    (fun _ h => ⟨trivial, h⟩) fun _ _ h => h.2
  rw [hd.autoMode (fun h => he (h ▸ hk)) fun h => hs (h ▸ hk), hm]

variable (cfg)

theorem finishTurn.turns (n : Nat) : Spec (·.state.currentTurn = n) finishTurn
    (fun _ b => b.state.currentTurn = n + 1) fun _ _ => False := by
  refine .turn_bind fun b hb => ?_
  refine .bind (R := fun _ b' => b'.state = b.state) (.modify fun _ h => h ▸ rfl) fun _ => ?_
  split
  · exact .modify fun b' _ => congrArg (· + 1) hb
  · exact Spec.overflow

/-- A turn is brought to its end once; where the battle ends meanwhile, once at most. -/
theorem closeTurn.turns (submit : Bool) (n : Nat) :
    Spec (·.state.currentTurn = n) (closeTurn cfg submit)
      (fun _ b => b.state.currentTurn = n + 1)
      fun _ b => n ≤ b.state.currentTurn ∧ b.state.currentTurn ≤ n + 1 := by
  have submitted : Spec (·.state.currentTurn = n) (submitTurn cfg)
      (fun _ b => b.state.currentTurn = n) fun _ b => b.state.currentTurn = n :=
    Course.sameTurn (K := fun _ => False) (submitTurn.course cfg) id n
  have waited : Spec (·.state.currentTurn = n) (discard (waitForAttack cfg resolveTries))
      (fun _ b => b.state.currentTurn = n) fun _ b => b.state.currentTurn = n :=
    Course.sameTurn (K := Eq .fallen) (.discard (waitForAttack.course cfg rfl _)) nofun n
  have checked : Spec (·.state.currentTurn = n + 1) (check cfg)
      (fun _ b => b.state.currentTurn = n + 1) fun _ b => b.state.currentTurn = n + 1 :=
    Course.sameTurn (K := fun _ => False) (check.course cfg).forget id (n + 1)
  have pressed : Spec (·.state.currentTurn = n + 1) (pressNext cfg)
      (fun _ b => b.state.currentTurn = n + 1) fun _ b => b.state.currentTurn = n + 1 :=
    Course.sameTurn (K := fun _ => False) (pressNext.course cfg) id (n + 1)
  have before (b : Battle) (h : b.state.currentTurn = n) :
      n ≤ b.state.currentTurn ∧ b.state.currentTurn ≤ n + 1 := by omega
  have after (b : Battle) (h : b.state.currentTurn = n + 1) :
      n ≤ b.state.currentTurn ∧ b.state.currentTurn ≤ n + 1 := by omega
  have rest : Spec (·.state.currentTurn = n) (do
      discard (waitForAttack cfg resolveTries)
      finishTurn
      check cfg
      pressNext cfg) (fun _ b => b.state.currentTurn = n + 1)
      fun _ b => n ≤ b.state.currentTurn ∧ b.state.currentTurn ≤ n + 1 := by
    refine .bind (waited.mono_ended fun _ => before) fun _ => ?_
    refine .bind (finishTurn.turns n).of_never fun _ => ?_
    refine .bind (checked.mono_ended fun _ => after) fun _ => ?_
    exact pressed.mono_ended fun _ => after
  unfold closeTurn
  split
  · exact .bind (submitted.mono_ended fun _ => before) fun _ => rest
  · have awaited : Spec (·.state.currentTurn = n) (awaitAutoTurn cfg autoTurnLooks false)
        (fun _ b => b.state.currentTurn = n) fun _ b => b.state.currentTurn = n :=
      Course.sameTurn (K := Eq .fallen) (awaitAutoTurn.course cfg rfl _ _) nofun n
    refine .bind (awaited.mono_ended fun _ => before) fun done => ?_
    split
    · exact .bind (submitted.mono_ended fun _ => before) fun _ => rest
    · exact rest

theorem closeNext.turns (last : Bool) (n : Nat) :
    Spec (·.state.currentTurn = n) (closeNext cfg last) (fun _ b => b.state.currentTurn = n + 1)
      fun _ b => n ≤ b.state.currentTurn ∧ b.state.currentTurn ≤ n + 1 := by
  have quiet : Course cfg (fun _ => False) Anyhow dismissDialogs fun _ => Anyhow :=
    .quiet dismissDialogs.quiet
  have dialogs : Spec (·.state.currentTurn = n) dismissDialogs
      (fun _ b => b.state.currentTurn = n) fun _ b => b.state.currentTurn = n :=
    quiet.sameTurn id n
  have suspended : Spec (·.state.currentTurn = n) (suspendAuto cfg)
      (fun _ b => b.state.currentTurn = n) fun _ b => b.state.currentTurn = n :=
    Course.sameTurn (K := Eq .suspended) (suspendAuto.course cfg rfl) nofun n
  have close : Spec (·.state.currentTurn = n) (do
      dismissDialogs
      closeTurn cfg (← isByHand)) (fun _ b => b.state.currentTurn = n + 1)
      fun _ b => n ≤ b.state.currentTurn ∧ b.state.currentTurn ≤ n + 1 := by
    refine .bind (dialogs.mono_ended fun _ b h => ?_) fun _ => ?_
    · omega
    · refine .get_bind fun b hb => ?_
      exact (closeTurn.turns cfg _ n).mono_start fun _ h => h ▸ hb
  unfold closeNext
  split
  · refine .bind (suspended.mono_ended fun _ b h => ?_) fun _ => close
    omega
  · exact close

theorem fastForward.turns (left n : Nat) : Spec (·.state.currentTurn = n) (fastForward cfg left)
    (fun _ b => b.state.currentTurn = n + left)
    fun _ b => n ≤ b.state.currentTurn ∧ b.state.currentTurn ≤ n + left := by
  induction left generalizing n with
  | zero => exact .pure fun _ h => h
  | succ left ih =>
    rw [fastForward_succ]
    refine .bind ((closeNext.turns cfg _ n).mono_ended fun _ b h => ?_) fun _ => ?_
    · omega
    · refine (ih (n + 1)).mono_result (fun _ b h => ?_) fun _ b h => ?_
      · omega
      · omega

/-! ### The mode -/

theorem setAutoMode.mode (mode : AutoMode) : Spec (fun _ => True) (setAutoMode mode)
    (fun _ b => b.state.autoMode = mode) fun _ _ => False := by
  refine .get_bind fun b _ => ?_
  dsimp only
  split
  · refine .bind (R := fun _ b => b.state.autoMode = mode) (.modify fun _ _ => rfl) fun _ => ?_
    exact .modify fun _ h => h
  · next h =>
    refine .pure fun b' hb => ?_
    subst hb
    exact not_not.1 h

/-- Once automation has given way, nothing but the script plays. -/
theorem suspendAuto.manual : Spec (fun _ => True) (suspendAuto cfg)
    (fun _ b => b.state.autoMode = .manual) fun _ _ => False := by
  refine .get_bind fun b _ => ?_
  split
  · next h =>
    refine .pure fun b' hb => ?_
    subst hb
    cases hm : b'.state.autoMode with
    | manual => rfl
    | _ => rw [hm] at h; cases h
  · next kind _ =>
    have press : Quiet (fun _ => True) (press cfg (enabledControl kind)) :=
      press.quiet cfg (.inr trivial)
    refine .bind press.spec fun _ => ?_
    exact .bind (.modify fun _ _ => trivial) fun _ => setAutoMode.mode .manual

theorem closeTurn.manual (submit : Bool) : Spec (·.state.autoMode = .manual)
    (closeTurn cfg submit) (fun _ b => b.state.autoMode = .manual) fun _ _ => True := by
  let closing (d : Deed) : Prop := d = .fallen ∨ d = .turnEnded
  have close : Course cfg closing Anyhow (closeTurn cfg submit) fun _ => Anyhow :=
    .of_turns (closeTurn.course cfg (.inl rfl) (.inr rfl) submit)
  have keeps := close.sameMode (by rintro (h | h) <;> cases h) (by rintro (h | h) <;> cases h)
    .manual
  exact .of_eq fun b hb => (keeps.alone b hb).mono_result (fun _ _ h => h.2) fun _ _ _ => trivial

theorem closeNext.manual (last : Bool) :
    Spec (fun b => last = true ∨ b.state.autoMode = .manual) (closeNext cfg last)
      (fun _ b => b.state.autoMode = .manual) fun _ _ => True := by
  have dialogs : Spec (·.state.autoMode = .manual) dismissDialogs
      (fun _ b => b.state.autoMode = .manual) fun _ _ => True := by
    have quiet : Quiet (fun _ => True) dismissDialogs := dismissDialogs.quiet
    refine .of_eq fun b hb => (quiet.alone b).mono_value fun _ b' h => ?_
    rw [Asides.state h, hb]
  have close : Spec (·.state.autoMode = .manual) (do
      dismissDialogs
      closeTurn cfg (← isByHand)) (fun _ b => b.state.autoMode = .manual) fun _ _ => True := by
    refine .bind dialogs fun _ => .get_bind fun b hb => ?_
    exact (closeTurn.manual cfg _).mono_start fun _ h => h ▸ hb
  unfold closeNext
  split
  · refine .bind ?_ fun _ => close
    exact (suspendAuto.manual cfg).mono (fun _ _ => trivial) (fun _ _ h => h) fun _ _ h => h.elim
  · next hlast => exact close.mono_start fun b h => h.resolve_left hlast

/-- Automation gives way before the last turn that is missing, so that no automation plays once
none is missing. -/
theorem fastForward.manual (left : Nat) :
    Spec (fun b => left = 0 → b.state.autoMode = .manual) (fastForward cfg left)
      (fun _ b => b.state.autoMode = .manual) fun _ _ => True := by
  induction left with
  | zero => exact .pure fun _ h => h rfl
  | succ left ih =>
    rw [fastForward_succ]
    by_cases hlast : left = 0
    · subst hlast
      refine .bind ((closeNext.manual cfg true).mono_start fun _ _ => .inl rfl) fun _ => ?_
      exact ih.mono_start fun _ h _ => h
    · refine .bind Spec.anyhow fun _ => ?_
      exact ih.mono_start fun _ _ h => absurd h hlast

/-! ### Reaching a turn -/

theorem Within.inTurn {m : Play α} {E : Outcome → Battle → Prop} (hm : Within SameTurn m)
    (n : Nat) : Spec (·.state.currentTurn = n) m (fun _ b => b.state.currentTurn = n) E :=
  (hm.keeps fun h hb => h.trans hb).spec

theorem Within.sameTurn {m : Play α} (hm : Quiet (fun _ => True) m) : Within SameTurn m :=
  hm.mono fun _ _ h => congrArg BattleState.currentTurn h.state

theorem setAutoMode.sameTurn (mode : AutoMode) : Within SameTurn (setAutoMode mode) := by
  refine .get_bind fun b => ?_
  dsimp only
  split
  · exact .bind (.step fun _ => rfl) fun _ => .step fun _ => rfl
  · exact .pure _

theorem enableAuto.sameTurn (kind : AutoKind) : Within SameTurn (enableAuto cfg kind) := by
  have finish (mode : AutoMode) : Within SameTurn (do
      if mode = .manual then setback .autoUnavailable
      setAutoMode mode) := by
    dsimp only
    split
    · exact .bind (Within.sameTurn (setback.quiet _)) fun _ => setAutoMode.sameTurn mode
    · exact setAutoMode.sameTurn mode
  refine .get_bind fun b => ?_
  split
  · exact .pure _
  · refine .bind (.step fun _ => rfl) fun _ => ?_
    cases kind with
    | full => exact .bind (Within.sameTurn (tryFull.quiet cfg trivial)) finish
    | semi => exact .bind (Within.sameTurn (trySemi.quiet cfg trivial)) finish

theorem resumeAuto.sameTurn : Within SameTurn (resumeAuto cfg) := by
  refine .get_bind fun b => ?_
  split
  · exact .pure _
  · exact .bind (.step fun _ => rfl) fun _ => enableAuto.sameTurn cfg _

variable {cfg}

/-- In strict mode a marker of a later turn is reached by ending the turns that are missing, and
then no automation plays. -/
theorem reachTurn.ahead (hstrict : cfg.strategy.turnSync = .strict) (hn : n < marker) :
    Spec (·.state.currentTurn = n) (reachTurn cfg marker)
      (fun _ b => b.state.currentTurn = marker ∧ b.state.autoMode = .manual)
      fun _ b => n ≤ b.state.currentTurn ∧ b.state.currentTurn ≤ marker := by
  have forward : Spec (·.state.currentTurn = n) (fastForward cfg (marker - n))
      (fun _ b => b.state.currentTurn = marker ∧ b.state.autoMode = .manual)
      fun _ b => n ≤ b.state.currentTurn ∧ b.state.currentTurn ≤ marker := by
    have hleft : marker - n ≠ 0 := by omega
    have hsum : n + (marker - n) = marker := by omega
    have both := Spec.both (fastForward.turns cfg (marker - n) n)
      (fastForward.manual cfg (marker - n))
    rw [hsum] at both
    exact both.mono (fun _ h => ⟨h, fun h0 => absurd h0 hleft⟩) (fun _ _ h => h) fun _ _ h => h.1
  rw [reachTurn]
  simp only [hstrict]
  refine .bind ((Within.sameTurn dismissDialogs.quiet).inTurn n) fun _ => ?_
  refine .bind ((resumeAuto.sameTurn cfg).inTurn n) fun _ => .turn_bind fun b hb => ?_
  subst hb
  refine .bind (R := fun _ b' => b'.state.currentTurn = b.state.currentTurn)
    (.modify fun _ h => h ▸ rfl) fun _ => ?_
  rw [if_neg (by omega)]
  exact .bind forward fun _ => .get_bind fun b' hb' => .pure fun _ h => h ▸ hb'

/-- In strict mode a marker of an earlier turn does not end the battle, nor any turn. -/
theorem reachTurn.past (hstrict : cfg.strategy.turnSync = .strict) (hn : marker < n) :
    Spec (·.state.currentTurn = n) (reachTurn cfg marker)
      (fun _ b => b.state.currentTurn = n) fun _ _ => False := by
  rw [reachTurn]
  simp only [hstrict]
  refine .bind ((Within.sameTurn dismissDialogs.quiet).inTurn n) fun _ => ?_
  refine .bind ((resumeAuto.sameTurn cfg).inTurn n) fun _ => .turn_bind fun b hb => ?_
  subst hb
  refine .bind (R := fun _ b' => b'.state.currentTurn = b.state.currentTurn)
    (.modify fun _ h => h ▸ rfl) fun _ => ?_
  rw [if_pos hn]
  exact .pure fun _ h => h

/-! ### Watching the counter -/

/-- Ends turns for as long as the counter is behind the target, in so many rounds at most. -/
def catchUp (cfg : Settings) : (rounds : Nat) → Play Unit
  | 0 => throw .unfinished
  | rounds + 1 => do
    let s := (← get).state
    if s.currentTurn < s.targetTurn then
      closeNext cfg (s.currentTurn + 1 == s.targetTurn)
      catchUp cfg rounds

/-- Counting the turns that are missing is the same as watching the counter, and it needs no more
rounds than turns. -/
theorem catchUp_eq {left rounds : Nat} {b : Battle}
    (ht : b.state.currentTurn + left = b.state.targetTurn) (hr : left < rounds) :
    (catchUp cfg rounds).run.run b = (fastForward cfg left).run.run b := by
  induction left generalizing rounds b with
  | zero =>
    cases rounds with
    | zero => omega
    | succ rounds =>
      have hget {f : Battle → Play Unit} : (get >>= f).run.run b = (f b).run.run b := rfl
      have hstop : ¬ b.state.currentTurn < b.state.targetTurn := by omega
      rw [catchUp, hget]
      simp only [if_neg hstop]
      rfl
  | succ left ih =>
    cases rounds with
    | zero => omega
    | succ rounds =>
      have hget {f : Battle → Play Unit} : (get >>= f).run.run b = (f b).run.run b := rfl
      have hmore : b.state.currentTurn < b.state.targetTurn := by omega
      have hlast : (b.state.currentTurn + 1 == b.state.targetTurn) = (left == 0) := by
        rw [Bool.eq_iff_iff, beq_iff_eq, beq_iff_eq]
        omega
      rw [catchUp, hget, fastForward_succ]
      simp only [if_pos hmore, hlast]
      rw [ExceptT.run_bind, StateT.run_bind, ExceptT.run_bind, StateT.run_bind]
      match h : (closeNext cfg (left == 0)).run.run b with
      | (.error halt, b') => rfl
      | (.ok (), b') =>
        obtain ⟨-, hcurrent, htarget⟩ :=
          ((closeNext.aimed cfg Deed.Reaching.reaches _ _ _).alone b ⟨rfl, rfl⟩).of_ok rfl h
        change (catchUp cfg rounds).run.run b' = (fastForward cfg left).run.run b'
        exact ih (by omega) (by omega)

/-! ### What a marker does in strict mode -/

theorem enterTurn.spec (marker : Nat) (b : Battle) {E : Outcome → Battle → Prop}
    (H : Spec (·.state.currentTurn = b.state.currentTurn) (reachTurn cfg marker) R E) :
    Spec (· = b) (enterTurn cfg marker)
      (fun _ b' => ∃ e b₁, Moves cfg Deed.Reaching b b₁ ∧ Comes cfg marker e b₁.state ∧ R e b₁ ∧
        b' = b₁.noted e)
      fun outcome b' => Halted cfg Deed.Reaching b outcome b' ∧ E outcome b' := by
  have course := (reachTurn.course cfg Deed.Reaching.reaches marker).alone b trivial
  have reach := (Spec.both course H).mono_start (fun _ h => ⟨h, h ▸ rfl⟩)
  rw [enterTurn_eq]
  exact .bind reach fun e => .modify fun b₁ h => ⟨e, b₁, h.1.1, h.1.2, h.2, rfl⟩

/-- A marker is never left unfinished. -/
theorem enterTurn.finishes (marker : Nat) (b : Battle)
    (h : (enterTurn cfg marker).run.run b = (.error .unfinished, b')) : False := by
  have enter : Orderly .scripted .free (enterTurn cfg marker) fun _ => .free :=
    enterTurn.orderly cfg trivial marker
  exact ((enter b.journal).of_error .start h).finished id rfl

end Play

namespace Battle

/-- What has come of a marker of a later turn since `b`. Either each turn before it was ended once,
the block was opened and no automation plays; or the battle ended in the midst of that, and no block
was opened. Only a number that leaves its range can cut this short. -/
inductive ReachesMarker (marker : Nat) (b : Battle) : Except Halt Unit × Battle → Prop
  | opened
    (events : b'.journal.events = b.journal.events ++ since ++ [.turnStarted marker])
    (ended : since.filterMap Event.endedTurn? =
      List.range' b.state.currentTurn (marker - b.state.currentTurn))
    (unmarked : ∀ e ∈ since, e.isMarker = false)
    (current : b'.state.currentTurn = marker)
    (target : b'.state.targetTurn = marker)
    (manual : b'.state.autoMode = .manual) : ReachesMarker marker b (.ok (), b')
  | ended
    (events : b'.journal.events = b.journal.events ++ since)
    (ended : since.filterMap Event.endedTurn? = List.range' b.state.currentTurn k)
    (unmarked : ∀ e ∈ since, e.isMarker = false)
    (missing : k ≤ marker - b.state.currentTurn)
    (current : b'.state.currentTurn = b.state.currentTurn + k) :
    ReachesMarker marker b (.error (.ended outcome), b')
  | overflow : ReachesMarker marker b (.error .overflow, b')

/-- What has come of a marker of an earlier turn since `b`: it was skipped, in the same turn. -/
inductive SkipsMarker (marker : Nat) (b : Battle) : Except Halt Unit × Battle → Prop
  | skipped
    (events : b'.journal.events =
      b.journal.events ++ since ++ [.markerSkipped marker b.state.currentTurn])
    (ended : ∀ e ∈ since, e.endedTurn? = none)
    (unmarked : ∀ e ∈ since, e.isMarker = false)
    (current : b'.state.currentTurn = b.state.currentTurn) : SkipsMarker marker b (.ok (), b')
  | overflow : SkipsMarker marker b (.error .overflow, b')

end Battle

namespace Play
open Battle

theorem enterTurn.reaches (hstrict : cfg.strategy.turnSync = .strict) {b : Battle}
    (hahead : b.state.currentTurn < marker) :
    ReachesMarker marker b ((enterTurn cfg marker).run.run b) := by
  have H := enterTurn.spec marker b (reachTurn.ahead hstrict hahead)
  match h : (enterTurn cfg marker).run.run b with
  | (.ok (), b') =>
    obtain ⟨e, b₁, hm, hc, ⟨ht, hmanual⟩, rfl⟩ := H.of_ok rfl h
    obtain ⟨since, hsince⟩ := hm.counts id id
    cases hc with
    | opened htarget hs =>
      refine .opened ?_ ?_ hsince.unmarked ht (htarget.trans ht) hmanual
      · rw [← hsince.events, ← ht]
        exact Journal.events_event ..
      · rw [hsince.ended, ht]
    | passed htarget hp => omega
  | (.error (.ended outcome), b') =>
    obtain ⟨⟨b₁, hm, -, rfl⟩, hle, hle'⟩ := H.of_ended rfl h
    obtain ⟨since, hsince⟩ := hm.counts id id
    have hforward := hsince.forward
    change b₁.state.currentTurn ≤ marker at hle'
    refine .ended hsince.events hsince.ended hsince.unmarked (by omega) ?_
    change b₁.state.currentTurn = _
    omega
  | (.error .overflow, b') => exact .overflow
  | (.error .unfinished, b') => exact (enterTurn.finishes marker b h).elim

theorem enterTurn.skips (hstrict : cfg.strategy.turnSync = .strict) {b : Battle}
    (hpast : marker < b.state.currentTurn) :
    SkipsMarker marker b ((enterTurn cfg marker).run.run b) := by
  have H := enterTurn.spec marker b (reachTurn.past hstrict hpast)
  match h : (enterTurn cfg marker).run.run b with
  | (.ok (), b') =>
    obtain ⟨e, b₁, hm, hc, ht, rfl⟩ := H.of_ok rfl h
    obtain ⟨since, hsince⟩ := hm.counts id id
    have hnone : since.filterMap Event.endedTurn? = [] := by
      rw [hsince.ended, ht, Nat.sub_self]
      rfl
    rw [List.filterMap_eq_nil_iff] at hnone
    cases hc with
    | opened htarget hs =>
      have hmarker := hs hstrict
      omega
    | passed htarget hp =>
      refine .skipped ?_ hnone hsince.unmarked ht
      rw [← hsince.events, ← ht]
      exact Journal.events_event ..
  | (.error (.ended outcome), b') => exact (H.of_ended rfl h).2.elim
  | (.error .overflow, b') => exact .overflow
  | (.error .unfinished, b') => exact (enterTurn.finishes marker b h).elim

/-- In strict mode a marker of a later turn ends exactly the turns that are missing, and the counter
tells when that is done; a marker of an earlier turn is skipped. -/
theorem marker_exact (hstrict : cfg.strategy.turnSync = .strict) (marker : Nat) (b : Battle) :
    (b.state.currentTurn < marker → ReachesMarker marker b ((enterTurn cfg marker).run.run b) ∧
      ∀ rounds (b₁ : Battle), b₁.state.currentTurn = b.state.currentTurn →
        b₁.state.targetTurn = marker → marker - b.state.currentTurn < rounds →
        (catchUp cfg rounds).run.run b₁ =
          (fastForward cfg (marker - b.state.currentTurn)).run.run b₁) ∧
    (marker < b.state.currentTurn → SkipsMarker marker b ((enterTurn cfg marker).run.run b)) := by
  refine ⟨fun hahead => ⟨enterTurn.reaches hstrict hahead, ?_⟩, enterTurn.skips hstrict⟩
  intro rounds b₁ hcurrent htarget hrounds
  exact catchUp_eq (by omega) hrounds

theorem marker_exact_third :
    let b : Battle := .start (.ofScenario { visible := ["attack"] })
    ReachesMarker 3 b ((enterTurn {} 3).run.run b) ∧
      (catchUp {} 3).run.run (b.inState fun s => { s with targetTurn := 3 }) =
        (fastForward {} 2).run.run (b.inState fun s => { s with targetTurn := 3 }) ∧
      ((enterTurn {} 3).run.run b).2.journal.events =
        [.turnEnded 1, .turnEnded 2, .turnStarted 3] := by
  intro b
  have hstrict : ({} : Settings).strategy.turnSync = .strict := rfl
  have hexact := marker_exact hstrict 3 b
  obtain ⟨hreaches, hcatch⟩ := hexact.1 (by decide)
  exact ⟨hreaches, hcatch 3 _ rfl rfl (by decide), by decide +kernel⟩

end Play
end BattlePilot
