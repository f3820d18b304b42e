import BattlePilot.Proofs.Fight.LooksForEnd
import BattlePilot.Proofs.Fight.Markers

/-! Blocks of turns. A block is opened by the marker of its turn alone, and the next command is
dispatched if no automation plays then. A marker takes the turn from automation only where turns
are missing: one that is already due leaves automation on, and the commands of the block that it
opens are passed over. -/

namespace BattlePilot

/-! ### Where no block is opened -/

/-- Since the journal `j` no block was opened. -/
def Journal.OpensNone (j j' : Journal) : Prop :=
  ∃ new, j' = new ++ j ∧ ∀ turn, .event (.turnStarted turn) ∉ new

namespace Journal.OpensNone

variable {j j' new : Journal} {e : Entry}

theorem refl (j : Journal) : OpensNone j j := ⟨[], rfl, fun _ => List.not_mem_nil⟩

theorem append (h : OpensNone j j') (hnew : ∀ turn, .event (.turnStarted turn) ∉ new) :
    OpensNone j (new ++ j') := by
  obtain ⟨between, rfl, hbetween⟩ := h
  refine ⟨new ++ between, (List.append_assoc ..).symm, ?_⟩
  intro turn hmem
  rcases List.mem_append.1 hmem with hmem | hmem
  · exact hnew turn hmem
  · exact hbetween turn hmem

theorem cons (h : OpensNone j j') (he : ∀ turn, e ≠ .event (.turnStarted turn)) :
    OpensNone j (e :: j') := by
  have hone : ∀ turn, .event (.turnStarted turn) ∉ [e] := by
    intro turn hmem
    exact he turn (List.mem_singleton.1 hmem).symm
  exact h.append hone

/-- A block that was opened had been opened before. -/
theorem split (h : OpensNone j j') (hj : j' = later ++ .event (.turnStarted turn) :: earlier) :
    ∃ more, j = more ++ .event (.turnStarted turn) :: earlier := by
  obtain ⟨new, rfl, hnew⟩ := h
  obtain ⟨more, -, hmore⟩ := split_of_not_mem (hnew turn) hj
  exact ⟨more, hmore⟩

end Journal.OpensNone

theorem Ordered.opensNone (ho : ¬ L.opens) (h : Ordered L base p j) : base.OpensNone j := by
  induction h with
  | start => exact .refl base
  | ready _ ih | gaveUp _ _ ih => exact ih
  | asked _ _ _ ih | attacked _ ih | turnEnded _ ih => exact ih.cons nofun
  | opened ho' => exact absurd ho' ho
  | remarked he _ _ ih =>
    apply ih.cons
    rintro turn ⟨⟩
    cases he
  | told he _ ih =>
    apply ih.cons
    rintro turn ⟨⟩
    cases he
  | looked _ _ ih => exact ih.append fun _ => Journal.event_not_mem_ofLook
  | dispatched _ _ ih =>
    refine .cons ?_ nofun
    exact ih.append fun _ => Journal.event_not_mem_ofLook

theorem EndFound.opensNone (h : EndFound j halt j') : j.OpensNone j' := by
  cases h with
  | ended => exact (Journal.OpensNone.refl j).append fun _ => Journal.event_not_mem_ofLook
  | dismissed _ hd =>
    rw [List.append_assoc]
    refine .append ?_ fun _ => hd.event_not_mem
    exact (Journal.OpensNone.refl j).append fun _ => Journal.event_not_mem_ofLook

theorem Journal.OpensNone.trans {j j₁ j' : Journal} (h : OpensNone j j₁) (h' : OpensNone j₁ j') :
    OpensNone j j' := by
  obtain ⟨new, rfl, hnew⟩ := h'
  exact h.append hnew

theorem Stops.opensNone (ho : ¬ L.opens) (h : Stops L base halt j) : base.OpensNone j := by
  cases h with
  | overflow h | unfinished _ h | movedOn _ h => exact h.opensNone ho
  | found h hf => exact (h.opensNone ho).trans hf.opensNone

namespace Play
open Battle

theorem Orderly.opensNone {m : Play α} (hm : Orderly L p m q) (ho : ¬ L.opens) (b : Battle) :
    Triple (· = b) m (fun _ b' => b.journal.OpensNone b'.journal)
      fun _ b' => b.journal.OpensNone b'.journal := by
  apply (hm b.journal).conseq
  · intro b' h
    subst h
    exact Ordered.start.ready
  · intro a b' h
    exact h.opensNone ho
  · intro halt b' h
    exact h.opensNone ho

/-! ### Who plays once a marker is reached -/

variable (cfg : Settings)

/-- Automation is only turned on again where it has given way. -/
theorem resumeAuto.sameMode (mode : AutoMode) :
    Spec (fun b => b.state.autoMode = mode ∧
      (b.state.suspendedAuto = none ∨ mode.isActive = true)) (resumeAuto cfg)
      (fun _ b => b.state.autoMode = mode) fun _ _ => False := by
  refine .get_bind fun b ⟨hmode, hkept⟩ => ?_
  split
  · exact .pure fun b' h => h ▸ hmode
  · next kind hkind =>
    have hactive : mode.isActive = true := by
      rcases hkept with hnone | hactive
      · rw [hkind] at hnone
        cases hnone
      · exact hactive
    refine .bind (R := fun _ b' => b'.state.autoMode = mode) (.modify fun b' h => h ▸ hmode) ?_
    intro _
    refine .get_bind fun b' hb' => ?_
    rw [hb', if_pos hactive]
    exact .pure fun _ h => h ▸ hb'

/-- Whether a marker is ahead of the turn being played, so that turns have to be ended first. -/
def IsAhead (marker : Nat) (s : BattleState) : Prop :=
  cfg.strategy.turnSync = .strict ∧ s.currentTurn < marker

/-- What a marker does about automation: it gives way where turns are missing, and otherwise it
goes on if it plays. -/
structure Yields (marker : Nat) (s s' : BattleState) : Prop where
  ahead : IsAhead cfg marker s → s'.autoMode = .manual
  there : ¬ IsAhead cfg marker s → (s.suspendedAuto = none ∨ s.autoMode.isActive = true) →
    s'.autoMode = s.autoMode

variable {cfg}

/-- Where no turn is missing, whoever plays goes on, unless automation has given way. -/
theorem reachTurn.sameMode (marker : Nat) (mode : AutoMode) :
    Spec (fun b => ¬ IsAhead cfg marker b.state ∧ b.state.autoMode = mode ∧
      (b.state.suspendedAuto = none ∨ mode.isActive = true)) (reachTurn cfg marker)
      (fun _ b => b.state.autoMode = mode) fun _ _ => True := by
  have dismissed (b : Battle) : Spec (· = b) dismissDialogs (fun _ b' => b'.state = b.state)
      fun _ _ => True := by
    have quiet : Quiet (fun _ => True) dismissDialogs := dismissDialogs.quiet
    exact (quiet.alone b).mono_value fun _ _ h => Asides.state h
  refine .of_eq fun b ⟨hthere, hmode, hkept⟩ => ?_
  refine .bind (dismissed b) fun _ => ?_
  have resumed := Spec.both (resumeAuto.sameMode cfg mode)
    ((resumeAuto.sameTurn cfg).inTurn (E := fun _ _ => True) b.state.currentTurn)
  refine .bind (R := fun _ b' => b'.state.autoMode = mode ∧
    b'.state.currentTurn = b.state.currentTurn) ?_ fun _ => ?_
  · apply resumed.mono
    · intro b' h
      rw [h]
      exact ⟨⟨hmode, hkept⟩, rfl⟩
    · exact fun _ _ h => h
    · exact fun _ _ h => h.2
  · refine .turn_bind fun b' ⟨hmode', hturn⟩ => ?_
    split
    · refine .bind (R := fun _ b => b.state.autoMode = mode) ?_ fun _ => .pure fun _ h => h
      exact .modify fun _ h => h ▸ hmode'
    · next hstrict =>
      have hle : ¬ b'.state.currentTurn < marker := fun h => hthere ⟨hstrict, hturn ▸ h⟩
      have hzero : marker - b'.state.currentTurn = 0 := by omega
      rw [hzero]
      refine .bind (R := fun _ b => b.state.autoMode = mode) ?_ fun _ => ?_
      · exact .modify fun _ h => h ▸ hmode'
      · split
        · exact .pure fun _ h => h
        · refine .bind (R := fun _ b => b.state.autoMode = mode) (.pure fun _ h => h) ?_
          intro _
          refine .turn_bind fun b hb => ?_
          exact .pure fun _ h => h ▸ hb

theorem reachTurn.yields (marker : Nat) (b : Battle) :
    Spec (· = b) (reachTurn cfg marker) (fun _ b' => Yields cfg marker b.state b'.state)
      fun _ _ => True := by
  by_cases hahead : IsAhead cfg marker b.state
  · apply (reachTurn.ahead hahead.1 hahead.2).mono
    · exact fun b' h => h ▸ rfl
    · exact fun _ b' h => ⟨fun _ => h.2, fun hthere => absurd hahead hthere⟩
    · exact fun _ _ _ => trivial
  · by_cases hkept : b.state.suspendedAuto = none ∨ b.state.autoMode.isActive = true
    · apply (reachTurn.sameMode marker b.state.autoMode).mono
      · intro b' h
        subst h
        exact ⟨hahead, rfl, hkept⟩
      · exact fun _ b' h => ⟨fun h' => absurd h' hahead, fun _ _ => h⟩
      · exact fun _ _ _ => trivial
    · refine Spec.anyhow.mono_value fun _ b' _ => ?_
      exact ⟨fun h' => absurd h' hahead, fun _ h' => absurd h' hkept⟩

/-! ### Steps that open a block -/

theorem step_turn (n : UInt32) : step cfg (.turn n) = (do
    check cfg
    record (← reachTurn cfg n.toNat)) := by
  rw [← enterTurn_eq]
  rfl

theorem step_turn.spec (n : UInt32) (b₀ : Battle) :
    Triple (· = b₀) (step cfg (.turn n))
      (fun _ b => ∃ (e : Event) (b₁ : Battle), b = b₁.noted e ∧ b₀.journal.OpensNone b₁.journal ∧
        Comes cfg n.toNat e b₁.state ∧ Yields cfg n.toNat b₀.state b₁.state)
      fun _ b => b₀.journal.OpensNone b.journal := by
  have reaches : Orderly .unmarked .free (reachTurn cfg n.toNat) fun _ => .free :=
    reachTurn.orderly cfg n.toNat
  rw [step_turn]
  refine .bind (R := fun _ b => b₀.journal.OpensNone b.journal ∧ b.state = b₀.state) ?_ fun _ => ?_
  · apply (check.passes cfg b₀).conseq (fun _ h => h)
    · rintro _ b ⟨⟨answers, -, hj⟩, hstate⟩
      rw [hj]
      exact ⟨.append (.refl _) fun _ => Journal.event_not_mem_ofLook, hstate⟩
    · exact fun _ _ h => h.opensNone
  · refine .of_eq fun b ⟨hlook, hstate⟩ => ?_
    have course := (reachTurn.course cfg Deed.Reaching.reaches n.toNat).alone b trivial
    have reach := ((reaches.opensNone id b).both course).both (reachTurn.yields n.toNat b)
    refine .bind (R := fun e b₁ => b₀.journal.OpensNone b₁.journal ∧
      Comes cfg n.toNat e b₁.state ∧ Yields cfg n.toNat b₀.state b₁.state) ?_ fun e => ?_
    · apply reach.conseq
      · exact fun _ h => ⟨⟨h, h⟩, h⟩
      · exact fun _ b₁ h => ⟨hlook.trans h.1.1, h.1.2.2, hstate ▸ h.2⟩
      · exact fun _ _ h => hlook.trans h.1.1
    · exact .modify fun b₁ h => ⟨e, b₁, rfl, h⟩

end Play

namespace Battle
open Play

/-- How the block of a turn came to be opened, where the journal was `earlier`: the commands before
a marker have been played, and the marker has opened the block of the turn being played, which in
strict mode is the turn that it names. -/
inductive Opens (cfg : Settings) (commands : List Command) (b₀ : Battle) (turn : Nat)
    (earlier : Journal) : Prop
  | mk (hc : commands = before ++ .turn n :: rest)
      (hbefore : (steps cfg before).run.run b₀ = (.ok (), b₁))
      (hopened : (steps cfg (before ++ [.turn n])).run.run b₀ = (.ok (), b))
      (hj : b.journal = .event (.turnStarted turn) :: earlier)
      (hcurrent : b.state.currentTurn = turn) (htarget : b.state.targetTurn = turn)
      (hnamed : cfg.strategy.turnSync = .strict → turn = n.toNat)
      (hyields : Yields cfg n.toNat b₁.state b.state)

/-- Each block in the journal was opened by a marker of the script. -/
def OpensAll (cfg : Settings) (commands : List Command) (b₀ : Battle) (j : Journal) : Prop :=
  ∀ later turn earlier, j = later ++ .event (.turnStarted turn) :: earlier →
    Opens cfg commands b₀ turn earlier

namespace OpensAll

variable {cfg : Settings} {commands : List Command} {b₀ : Battle} {j j' : Journal}

theorem more (h : OpensAll cfg commands b₀ j) (extra : List Command) :
    OpensAll cfg (commands ++ extra) b₀ j := by
  intro later turn earlier hsplit
  obtain ⟨rfl, hbefore, hopened, hj, hcurrent, htarget, hnamed, hyields⟩ :=
    h later turn earlier hsplit
  rw [List.append_assoc, List.cons_append]
  exact .mk rfl hbefore hopened hj hcurrent htarget hnamed hyields

theorem opensNone (h : OpensAll cfg commands b₀ j) (hnone : j.OpensNone j') :
    OpensAll cfg commands b₀ j' := by
  intro later turn earlier hsplit
  obtain ⟨more, hmore⟩ := hnone.split hsplit
  exact h more turn earlier hmore

/-- One more marker, which opens its block or none. -/
theorem marker {b b₁ : Battle} (h : OpensAll cfg commands b₀ b.journal)
    (hs : (steps cfg commands).run.run b₀ = (.ok (), b))
    (hrun : (step cfg (.turn n)).run.run b = (.ok (), b₁.noted e))
    (hnone : b.journal.OpensNone b₁.journal) (hcomes : Comes cfg n.toNat e b₁.state)
    (hyields : Yields cfg n.toNat b.state b₁.state) :
    OpensAll cfg (commands ++ [.turn n]) b₀ (b₁.noted e).journal := by
  have hopened : (steps cfg (commands ++ [.turn n])).run.run b₀ = (.ok (), b₁.noted e) := by
    rw [steps_concat, ExceptT.run_bind, StateT.run_bind, hs]
    exact hrun
  intro later turn earlier hsplit
  cases later with
  | nil =>
    cases hcomes with
    | opened htarget hstrict =>
      cases hsplit
      refine .mk rfl hs hopened rfl rfl htarget ?_ hyields
      exact fun h => htarget.symm.trans (hstrict h)
    | passed => cases hsplit
  | cons e' later =>
    rw [List.cons_append] at hsplit
    obtain ⟨more, hj⟩ := hnone.split (List.cons.inj hsplit).2
    exact h.more [.turn n] more turn earlier hj

end OpensAll
end Battle

namespace Play
open Battle

variable {cfg : Settings} {b₀ : Battle}

theorem steps.opens (h₀ : OpensAll cfg [] b₀ b₀.journal) (commands : List Command) :
    Triple (· = b₀) (steps cfg commands) (fun _ b => OpensAll cfg commands b₀ b.journal)
      fun _ b => OpensAll cfg commands b₀ b.journal := by
  -- from the end: the last command opens a block, or whatever was opened was so before
  induction commands using List.reverseRecOn with
  | nil => exact .pure fun _ h => h ▸ h₀
  | append_singleton commands command ih =>
    rw [steps_concat]
    refine .bind (R := fun _ b => OpensAll cfg commands b₀ b.journal ∧
      (steps cfg commands).run.run b₀ = (.ok (), b)) ?_ fun _ => ?_
    · exact ih.with_run.mono_halt fun _ _ h => h.more [command]
    · refine .of_eq fun b ⟨hb, hs⟩ => ?_
      have hmore := hb.more [command]
      by_cases hm : command.isMarker = true
      · cases command with
        | turn n =>
          apply (step_turn.spec n b).with_run.conseq (fun _ h => h)
          · rintro _ b' ⟨⟨e, b₁, rfl, hnone, hcomes, hyields⟩, hrun⟩
            exact hb.marker hs hrun hnone hcomes hyields
          · exact fun _ _ h => hmore.opensNone h
        | _ => cases hm
      · have unmarked : Orderly .unmarked .free (step cfg command) fun _ => .free :=
          step.orderly cfg fun h => absurd h hm
        apply (unmarked.opensNone id b).conseq (fun _ h => h)
        · exact fun _ _ h => hmore.opensNone h
        · exact fun _ _ h => hmore.opensNone h

theorem drive.opens (h₀ : OpensAll cfg [] b₀ b₀.journal) (rounds : Nat)
    (commands : List Command) :
    Triple (· = b₀) (drive cfg rounds commands) (fun _ _ => True)
      fun _ b => OpensAll cfg commands b₀ b.journal := by
  have onward : Orderly .onward .free (playOn cfg rounds) fun _ => .free :=
    playOn.orderly cfg trivial rounds
  refine .bind (steps.opens h₀ commands) fun _ => .of_eq fun b hb => ?_
  apply (onward.opensNone id b).conseq (fun _ h => h)
  · exact fun _ _ _ => trivial
  · exact fun _ _ h => hb.opensNone h

variable (cfg)

/-- What follows on a command that is dispatched only adds to the journal. -/
theorem dispatch.grows (hm : command.isMarker = false) (rounds : Nat) (rest : List Command)
    (b : Battle) :
    Triple (· = b) (do
      dispatch cfg command
      drive cfg rounds rest) (fun _ _ => True) fun _ b' => ∃ later, b'.journal =
        later ++ .event (.dispatched b.state.currentTurn command) :: b.journal := by
  have played : Orderly .full .free (do
      act cfg command
      check cfg
      drive cfg rounds rest) fun _ => .free := by
    refine .bind (act.orderly cfg command) fun _ => .bind (check.orderly cfg) fun _ => ?_
    exact drive.orderly cfg trivial trivial rounds rest
  rw [dispatch_eq cfg hm]
  simp only [bind_assoc]
  refine .turn_bind fun b₁ h => ?_
  subst h
  let counted (b' : Battle) : Prop :=
    b'.journal = .event (.dispatched b₁.state.currentTurn command) :: b₁.journal
  have noted : counted (b₁.noted (.dispatched b₁.state.currentTurn command)) := rfl
  refine .bind (R := fun _ => counted) (.modify fun _ h => h ▸ noted) fun _ => ?_
  refine .bind (R := fun _ => counted) (.modify fun _ h => h) fun _ => .of_eq fun b' hb' => ?_
  apply (played.grows b').conseq (fun _ h => h)
  · exact fun _ _ _ => trivial
  · rintro _ b'' ⟨later, hj⟩
    rw [hb'] at hj
    exact ⟨later, hj⟩

/-- How a battle goes on from `b` by a command and what comes after it, up to its halt. -/
inductive Continues (b : Battle) (command : Command) : Halt → Battle → Prop
  | found (h : EndFound b.journal halt b'.journal) : Continues b command halt b'
  | dispatched (hm : b.state.autoMode = .manual) (ha : Answers none answers)
      (hj : b'.journal = more ++ .event (.dispatched b.state.currentTurn command) ::
        (Journal.ofLook clock answers ++ b.journal)) : Continues b command halt b'
  | passedOver (hm : b.state.autoMode.isActive = true) (ha : Answers none answers)
      (hs : (step cfg command).run.run b = (.ok (), b₁))
      (hj : b₁.journal = Journal.ofLook clock answers ++ b.journal) (hstate : b₁.state = b.state) :
    Continues b command halt b'

/-- A command that may be passed over is, where automation plays. -/
theorem step.passesOver (hany : runsAnywhere command = false) {b : Battle}
    (hactive : b.state.autoMode.isActive = true) :
    Triple (· = b) (step cfg command) (fun _ b' => (∃ answers, Answers none answers ∧
      b'.journal = Journal.ofLook b'.screen.now answers ++ b.journal) ∧ b'.state = b.state)
      fun halt b' => EndFound b.journal halt b'.journal := by
  refine .bind (check.passes cfg b) fun _ => .get_bind fun b' h => ?_
  have hpass : (runsAnywhere command || (!b'.state.autoMode.isActive && b'.state.inSync)) =
      false := by
    rw [hany, h.2, hactive]
    rfl
  dsimp only
  rw [hpass]
  exact .pure fun _ h' => h' ▸ h

theorem drive.next (hany : runsAnywhere command = false) {b : Battle}
    (hsync : b.state.inSync = true) (rounds : Nat) (rest : List Command) :
    Triple (· = b) (drive cfg rounds (command :: rest)) (fun _ _ => True)
      (Continues cfg b command) := by
  have hm : command.isMarker = false := by
    cases command with
    | turn n => cases hany
    | _ => rfl
  have hdrive : drive cfg rounds (command :: rest) = (do
      step cfg command
      drive cfg rounds rest) := by
    simp only [drive, steps, bind_assoc]
  rw [hdrive]
  cases hactive : b.state.autoMode.isActive with
  | true =>
    have hpass := (step.passesOver cfg hany hactive).with_run
    refine .bind (hpass.mono_halt fun _ _ => .found) fun _ => ?_
    refine .of_eq fun b₁ h => ?_
    obtain ⟨⟨⟨answers, ha, hj⟩, hstate⟩, hrun⟩ := h
    apply Triple.anyhow.mono_halt
    exact fun _ _ _ => .passedOver hactive ha hrun hj hstate
  | false =>
    have hmanual : b.state.autoMode = .manual := by
      cases h : b.state.autoMode with
      | manual => rfl
      | _ =>
        rw [h] at hactive
        cases hactive
    rw [step]
    simp only [bind_assoc]
    refine .bind ((check.passes cfg b).mono_halt fun _ _ => .found) ?_
    intro _
    refine .get_bind fun b₁ h => ?_
    obtain ⟨⟨answers, ha, hj⟩, hstate⟩ := h
    have hplay : (runsAnywhere command || (!b₁.state.autoMode.isActive && b₁.state.inSync)) =
        true := by
      rw [hstate, hactive, hsync]
      exact Bool.or_true _
    rw [hplay]
    apply (dispatch.grows cfg hm rounds rest b₁).mono_halt
    rintro halt b' ⟨more, hmore⟩
    rw [hj, hstate] at hmore
    exact .dispatched hmanual ha hmore

end Play

namespace Fight
open Battle Play

variable {cfg : Settings} {rounds : Nat} {lines : List String} {screen : Screen} {script : Script}
variable {b₀ b : Battle} {later earlier : Journal}

/-- The block of a turn was opened at `b`, by the marker that follows the commands `before`: it is
the turn being played, which in strict mode the marker names, and the events so far tell the turn
and who plays it. -/
structure Opening (cfg : Settings) (screen : Screen) (before : List Command) (n : UInt32)
    (turn : Nat) (earlier : Journal) (b₀ b : Battle) : Prop where
  reached : after? cfg screen before = some b₀
  opened : after? cfg screen (before ++ [.turn n]) = some b
  journal : b.journal = .event (.turnStarted turn) :: earlier
  current : b.state.currentTurn = turn
  target : b.state.targetTurn = turn
  named : cfg.strategy.turnSync = .strict → turn = n.toNat
  replayed : Replay.ofEvents? b.journal.events =
    some ⟨turn, b.state.autoMode, b.dispatched, none⟩
  yields : Yields cfg n.toNat b₀.state b.state

/-- What becomes of the command that follows once the commands `played` have led to `b`, where
`later` came after that. It is dispatched if no automation plays and it is passed over otherwise,
unless the battle is found to have ended. -/
inductive NextCommand (cfg : Settings) (screen : Screen) (f : Fight) (played : List Command)
    (b : Battle) (command : Command) (later : Journal) : Prop
  | dispatched (hm : b.state.autoMode = .manual) (ha : Answers none answers)
      (hl : later = more ++
        .event (.dispatched b.state.currentTurn command) :: Journal.ofLook clock answers)
  | passedOver (hm : b.state.autoMode.isActive = true) (ha : Answers none answers)
      (hp : after? cfg screen (played ++ [command]) = some b')
      (hj : b'.journal = Journal.ofLook clock answers ++ b.journal) (hs : b'.state = b.state)
  | found (ha : Answers (some outcome) answers) (hend : EndsBy f outcome ended)
      (hl : later = ended ++ Journal.ofLook clock answers)

/-- What becomes of the next command, where the counter is in step with the block. -/
theorem nextCommand (hb : after? cfg screen played = some b)
    (hsync : b.state.inSync = true) (hc : script.commands = played ++ command :: rest)
    (hany : runsAnywhere command = false)
    (hj : (ofScript cfg rounds script screen).journal = later ++ b.journal) :
    NextCommand cfg screen (ofScript cfg rounds script screen) played b command later := by
  obtain ⟨halt, b', hdrive, hstopped⟩ := ofScript_of_after? rounds hb hc
  obtain ⟨noted, hnoted⟩ := stopped_grows b' script.warnings halt
  rw [hstopped] at hj ⊢
  cases (drive.next cfg hany hsync rounds rest).of_error rfl hdrive with
  | found h =>
    obtain ⟨outcome, answers, clock, ended, ha, hend, hended⟩ :=
      stopped_of_found h rfl script.warnings
    rw [hended] at hj
    exact .found ha hend (List.append_cancel_right hj).symm
  | @dispatched answers more clock _ _ hm ha hjournal =>
    have hlater : later = noted ++ more ++
        .event (.dispatched b.state.currentTurn command) :: Journal.ofLook clock answers := by
      refine List.append_cancel_right (hj.symm.trans ?_)
      rw [hnoted, hjournal]
      simp
    exact .dispatched hm ha hlater
  | passedOver hm ha hs hjournal hstate =>
    exact .passedOver hm ha (after?_concat hb hs) hjournal hstate

theorem stopped_opensNone (b : Battle) (warnings : List Warning) (halt : Halt) :
    b.journal.OpensNone (b.stopped warnings halt).journal := by
  cases halt with
  | ended outcome => exact (Journal.OpensNone.refl b.journal).cons nofun
  | overflow | unfinished => exact .refl b.journal

/-- Each block of a fight was opened by a marker of its script. -/
theorem ofScript_opens (hsplit : (ofScript cfg rounds script screen).journal =
      later ++ .event (.turnStarted turn) :: earlier) :
    ∃ b₀, (findAnchor cfg).run.run (.start screen) = (.ok true, b₀) ∧
      Opens cfg script.commands b₀ turn earlier := by
  have hquiet : Orderly .unmarked .free (findAnchor cfg) fun _ => .free :=
    .quiet rfl (findAnchor.quiet cfg)
  have hnone := hquiet.opensNone id (.start screen)
  have never {j later earlier : Journal} {turn : Nat} (h : Journal.OpensNone [] j)
      (hj : j = later ++ .event (.turnStarted turn) :: earlier) : False := by
    obtain ⟨more, hmore⟩ := h.split hj
    cases more <;> cases hmore
  unfold ofScript at hsplit
  match hanchor : (findAnchor cfg).run.run (.start screen) with
  | (.error halt, b) =>
    rw [hanchor] at hsplit
    have hb : Journal.OpensNone [] b.journal := hnone.of_error rfl hanchor
    exact (never (hb.trans (stopped_opensNone b script.warnings halt)) hsplit).elim
  | (.ok false, b) =>
    rw [hanchor] at hsplit
    exact (never (hnone.of_ok rfl hanchor) hsplit).elim
  | (.ok true, b₀) =>
    refine ⟨b₀, rfl, ?_⟩
    have h₀ : OpensAll cfg [] b₀ b₀.journal := fun _ _ _ hj =>
      (never (hnone.of_ok rfl hanchor) hj).elim
    match hdrive : (drive cfg rounds script.commands).run.run b₀ with
    | (.ok nothing, _) => exact nomatch nothing
    | (.error halt, b) =>
      simp only [hanchor, hdrive] at hsplit
      have hopens := (drive.opens h₀ rounds script.commands).of_error rfl hdrive
      have hstopped := hopens.opensNone (stopped_opensNone b script.warnings halt)
      exact hstopped _ _ _ hsplit

/-- A block that is opened in a fight is opened by a marker, in the turn being played; and the
command that follows is dispatched if no automation plays then, unless the battle is found to have
ended. -/
theorem started_blocks (hsplit : (run cfg rounds lines screen).journal =
      later ++ .event (.turnStarted turn) :: earlier) :
    ∃ script before n rest b₀ b, Script.parse lines = .ok script ∧
      script.commands = before ++ .turn n :: rest ∧
      Opening cfg screen before n turn earlier b₀ b ∧
      ∀ command more, rest = command :: more → runsAnywhere command = false →
        NextCommand cfg screen (run cfg rounds lines screen) (before ++ [.turn n]) b command
          later := by
  unfold run at hsplit ⊢
  split at hsplit
  · cases later <;> cases hsplit
  · split at hsplit
    · cases later <;> cases hsplit
    · next script hscript =>
      obtain ⟨start, hanchor, hopens⟩ := ofScript_opens hsplit
      obtain @⟨before, rest, b₀, b, n, hc, hbefore, hopened, hj, hcurrent, htarget, hnamed,
        hyields⟩ := hopens
      have hafter : after? cfg screen (before ++ [.turn n]) = some b :=
        (after?_eq_some hanchor).2 hopened
      have hreplayed : b.Replayed := by
        have hstart := (findAnchor.spec cfg (.start screen)).of_ok rfl hanchor
        have hmoves := (Asides.moves hstart).trans (steps_moves_any hopened)
        exact (Replayed.start screen).moves hmoves
      refine ⟨script, before, n, rest, b₀, b, hscript, hc, ?_, ?_⟩
      · constructor
        case reached => exact (after?_eq_some hanchor).2 hbefore
        case replayed =>
          rw [← hcurrent]
          exact hreplayed
        all_goals assumption
      · intro command more hrest hany
        have hsync : b.state.inSync = true := by
          rw [BattleState.inSync, hcurrent, htarget]
          exact beq_self_eq_true turn
        have hcommands : script.commands = (before ++ [.turn n]) ++ command :: more := by
          rw [hc, hrest, List.append_assoc]
          rfl
        refine nextCommand hafter hsync hcommands hany ?_
        rw [hsplit, hj]

/-- Here no automation plays, and the command of the block is dispatched. -/
theorem started_blocks_by_hand :
    let screen := Screen.ofScenario
      { visible := ["attack"]
        rules := [{ onClick := "attack", shows := ["loot_collected"] }] }
    let f := run {} 10 ["turn 1:", "attack"] screen
    let later := f.journal.take 18
    let earlier := f.journal.drop 19
    f.journal = later ++ .event (.turnStarted 1) :: earlier ∧
      ∃ script before n rest b₀ b, Script.parse ["turn 1:", "attack"] = .ok script ∧
        script.commands = before ++ .turn n :: rest ∧
        Opening {} screen before n 1 earlier b₀ b ∧
        ∀ command more, rest = command :: more → runsAnywhere command = false →
          NextCommand {} screen f (before ++ [.turn n]) b command later := by
  intro screen f later earlier
  have hsplit : f.journal = later ++ .event (.turnStarted 1) :: earlier := by decide +kernel
  exact ⟨hsplit, started_blocks hsplit⟩

/-- A marker of the turn being played opens its block while automation goes on, and the command of
the block is passed over. -/
theorem block_passed_over :
    let screen := Screen.ofScenario
      { visible := ["attack", "full_auto"]
        rules := [{ onClick := "attack", shows := ["loot_collected"] }] }
    let lines := ["enablefullauto", "turn 1:", "attack", "turn 2:"]
    let opening : List Event := [.dispatched 1 (.enableAuto .full),
      .autoModeChanged .manual .fullAuto]
    let rest : List Event := [.autoModeChanged .fullAuto .manual, .turnEnded 1,
      .ended 2 .lootCollected]
    Script.parse lines = .ok ⟨[.enableAuto .full, .turn 1, .byHand .attack, .turn 2], []⟩ ∧
      runsAnywhere (.byHand .attack) = false ∧
      Replay.ofEvents? opening = some ⟨1, .fullAuto, 1, none⟩ ∧
      (run {} 10 lines screen).result = .ok
        { outcome := .lootCollected
          turnsCompleted := 1
          commandsDispatched := 1
          autoMode := .manual
          elapsed := .ofSeconds 3
          warnings := []
          events := opening ++ .turnStarted 1 :: rest } := by
  refine ⟨?_, rfl, rfl, ?_⟩
  · decide +kernel
  · decide +kernel

end Fight
end BattlePilot
