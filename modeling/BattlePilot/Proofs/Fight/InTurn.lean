import BattlePilot.Proofs.Fight.Replayed
import BattlePilot.Proofs.Play.Telling

/-! Dispatching in turn. The commands that are dispatched come in the order of the script, each of
them once at most; and one that is neither automation, nor a repeated attack, nor an exit is only
dispatched in the turn of its block and while no automation plays. -/

namespace BattlePilot

namespace Battle
open Play

variable {cfg : Settings} {K : Deed → Prop}

/-! ### Where a command is dispatched -/

/-- A command is dispatched after these events: the commands before it have been played, and an end
has been looked for. -/
inductive Dispatches (cfg : Settings) (commands : List Command) (b₀ : Battle)
    (earlier : List Event) (turn : Nat) (command : Command) : Prop
  | mk (hc : commands = before ++ command :: rest)
      (hs : (steps cfg before).run.run b₀ = (.ok (), b₁)) (he : b₁.journal.events = earlier)
      (ht : turn = b₁.state.currentTurn) (ha : Asks cfg.Light b₁ b₂)
      (hd : Does cfg (.dispatched command) b₂ b₃)

structure Told (cfg : Settings) (commands : List Command) (b₀ : Battle) (events : List Event) :
    Prop where
  sublist : (events.filterMap Event.command?).Sublist (commands.filter (!·.isMarker))
  split : ∀ earlier turn command later,
    events = earlier ++ .dispatched turn command :: later →
      Dispatches cfg commands b₀ earlier turn command

namespace Told

variable {commands : List Command} {b₀ b b' : Battle} {events : List Event}

theorem more (h : Told cfg commands b₀ events) (extra : List Command) :
    Told cfg (commands ++ extra) b₀ events := by
  refine ⟨?_, fun earlier turn command later hsplit => ?_⟩
  · rw [List.filter_append]
    exact h.sublist.trans (List.sublist_append_left ..)
  · obtain ⟨hc, hs, he, ht, ha, hd⟩ := h.split earlier turn command later hsplit
    exact .mk (by rw [hc, List.append_assoc, List.cons_append]) hs he ht ha hd

theorem silent (h : Told cfg commands b₀ events) (hs : ∀ e ∈ since, e.command? = none) :
    Told cfg commands b₀ (events ++ since) := by
  refine ⟨?_, fun earlier turn command later hsplit => ?_⟩
  · rw [List.filterMap_append, List.filterMap_eq_nil_iff.2 hs, List.append_nil]
    exact h.sublist
  · rcases List.append_eq_append_iff.1 hsplit with ⟨more, -, hsince⟩ | ⟨more, hevents, hlater⟩
    · cases hs (.dispatched turn command) (by rw [hsince]; simp)
    · cases more with
      | nil => cases hs (.dispatched turn command) (by rw [← List.nil_append since, ← hlater]; simp)
      | cons e more =>
        cases hlater
        exact h.split earlier turn command more hevents

theorem moves (h : Told cfg commands b₀ b.journal.events)
    (hK : ∀ command, ¬ K (.dispatched command)) (hm : Moves cfg K b b') :
    Told cfg commands b₀ b'.journal.events := by
  obtain ⟨since, htells⟩ := hm.tells
  rw [htells.1]
  exact h.silent (htells.silent hK)

theorem dispatched (h : Told cfg commands b₀ b.journal.events)
    (hs : (steps cfg commands).run.run b₀ = (.ok (), b)) (ha : Asks cfg.Light b b₁)
    (hd : Does cfg (.dispatched command) b₁ b') :
    Told cfg (commands ++ [command]) b₀ b'.journal.events := by
  have hevents : b'.journal.events =
      b.journal.events ++ [.dispatched b.state.currentTurn command] := by
    rw [hd.dispatched_events, ha.events, ha.state]
  have hmarker : [command].filter (!·.isMarker) = [command] := by simp [hd.not_marker]
  rw [hevents]
  refine ⟨?_, fun earlier turn command' later hsplit => ?_⟩
  · rw [List.filterMap_append, List.filter_append, hmarker]
    exact h.sublist.append (.refl _)
  · rcases List.eq_nil_or_concat later with rfl | ⟨later, e, rfl⟩
    · obtain ⟨hearlier, hlast⟩ := List.append_inj' hsplit rfl
      cases hlast
      exact .mk rfl hs hearlier rfl ha hd
    · rw [List.concat_eq_append, ← List.cons_append, ← List.append_assoc] at hsplit
      have hevents := (List.append_inj' hsplit rfl).1
      exact (h.more [command]).split earlier turn command' later hevents

theorem plays (h : Told cfg commands b₀ b.journal.events)
    (hs : (steps cfg commands).run.run b₀ = (.ok (), b)) (hp : Plays cfg command b b') :
    Told cfg (commands ++ [command]) b₀ b'.journal.events := by
  -- nothing is dispatched while a command is played
  cases hp with
  | passed hm => exact (h.more [command]).moves (fun _ h => h) hm
  | played ha hd hm => exact (h.dispatched hs ha hd).moves (fun _ h => h) hm

theorem steps (h₀ : Told cfg [] b₀ b₀.journal.events)
    (hs : (Play.steps cfg commands).run.run b₀ = (.ok (), b)) :
    Told cfg commands b₀ b.journal.events := by
  induction commands using List.reverseRecOn generalizing b with
  | nil =>
    cases hs
    exact h₀
  | append_singleton commands command ih =>
    obtain ⟨b₁, hs, hp, -⟩ := steps_concat_ok hs
    exact (ih hs).plays hs hp

theorem ends (h₀ : Told cfg [] b₀ b₀.journal.events) (h : Ends cfg commands b₀ outcome b) :
    Told cfg commands b₀ b.journal.events := by
  cases h with
  | @scripted before command rest _ _ _ hc hs hp =>
    have := ((Told.steps h₀ hs).plays hs hp).more rest
    rwa [List.append_assoc, List.singleton_append, ← hc] at this
  | playedOn hs h => exact (Told.steps h₀ hs).moves (fun _ h => h) h.moves

theorem of_asides {screen : Screen} (h : Asides cfg.Clicks (.start screen) b₀) :
    Told cfg [] b₀ b₀.journal.events := by
  have h₀ : Told cfg [] b₀ (Battle.start screen).journal.events :=
    ⟨.slnil, fun earlier _ _ _ h => by cases earlier <;> cases h⟩
  exact h₀.moves (fun _ h => h) (Asides.moves (K := fun _ => False) h)

end Told

/-! ### The turn of a block -/

/-- Any command but three kinds waits for its turn, and for automation to give way. -/
theorem Does.inTurn (h : Does cfg (.dispatched command) b b')
    (ha : ∀ kind, command ≠ .enableAuto kind) (hr : command ≠ .repeatAttack)
    (he : command ≠ .exit) :
    b.state.autoMode = .manual ∧ b.state.currentTurn = b.state.targetTurn := by
  cases h with
  | dispatched _ _ hn hg =>
    rcases hg with hg | ⟨hmode, hsync⟩
    · cases command with
      | turn n => exact absurd rfl (hn n)
      | enableAuto kind => exact absurd rfl (ha kind)
      | repeatAttack => exact absurd rfl hr
      | exit => exact absurd rfl he
      | _ => cases hg
    · refine ⟨?_, eq_of_beq hsync⟩
      cases h : b.state.autoMode with
      | manual => rfl
      | _ => rw [h] at hmode; cases hmode
  | left => exact absurd rfl he

theorem splitAtMarker (commands : List Command) :
    (∀ c ∈ commands, c.isMarker = false) ∨ ∃ earlier n block,
      commands = earlier ++ .turn n :: block ∧ ∀ c ∈ block, c.isMarker = false := by
  induction commands with
  | nil => exact .inl nofun
  | cons command rest ih =>
    rcases ih with hrest | ⟨earlier, n, block, rfl, hblock⟩
    · cases command with
      | turn n => exact .inr ⟨[], n, rest, rfl, hrest⟩
      | _ => exact .inl (List.forall_mem_cons.2 ⟨rfl, hrest⟩)
    · exact .inr ⟨command :: earlier, n, block, rfl, hblock⟩

/-- A block of commands does not change which block is being read. -/
theorem block_moves {b b' : Battle} (hblock : ∀ c ∈ block, c.isMarker = false)
    (h : (steps cfg block).run.run b = (.ok (), b')) : Moves cfg (· ≠ .aimed) b b' := by
  refine steps_moves (fun c hc => ⟨fun d hd hne => ?_, nofun⟩) h
  subst hne
  rw [Deed.During, hblock c hc] at hd
  cases hd

/-- Where no turn has passed, none has ended. -/
theorem Replayed.no_turnEnded {b b' : Battle} (hb : b.Replayed) (hb' : b'.Replayed)
    (hevents : b'.journal.events = b.journal.events ++ since)
    (hturn : b'.state.currentTurn = b.state.currentTurn) : ∀ turn, .turnEnded turn ∉ since := by
  have h := (Replay.endedTurns hb').2
  rw [hevents, List.filterMap_append, (Replay.endedTurns hb).2] at h
  have hturn : b'.replay.turn = b.replay.turn := hturn
  rw [hturn, List.append_right_eq_self, List.filterMap_eq_nil_iff] at h
  intro turn hmem
  cases h _ hmem

end Battle

namespace Fight
open Battle Play

/-- The events up to the marker that some commands end with, and its number. Before any marker the
first turn is open. -/
inductive Opened (cfg : Settings) (screen : Screen) : List Command → Nat → List Event → Prop
  | start : Opened cfg screen [] 1 []
  | marker (h : after? cfg screen (earlier ++ [.turn n]) = some b) :
    Opened cfg screen (earlier ++ [.turn n]) n.toNat b.journal.events

/-- After these commands and events no automation plays, and the turn of the last marker has not
ended; in strict mode it is the turn that the marker names. -/
structure InTurn (cfg : Settings) (screen : Screen) (before : List Command) (earlier : List Event)
    (turn : Nat) : Prop where
  byHand : (Replay.ofEvents? earlier).map (·.mode) = some .manual
  inBlock : ∃ opening block marker opened since, before = opening ++ block ∧
    (∀ c ∈ block, c.isMarker = false) ∧ Opened cfg screen opening marker opened ∧
    earlier = opened ++ since ∧ (∀ ended, .turnEnded ended ∉ since) ∧
    (cfg.strategy.turnSync = .strict → turn = marker)

/-- The commands that are dispatched come from these commands, in their order. Each is dispatched
where the commands before it have been played, and one that waits for its turn is dispatched in
turn. -/
structure Dispatching (cfg : Settings) (screen : Screen) (commands : List Command)
    (events : List Event) : Prop where
  inOrder : (events.filterMap Event.command?).Sublist (commands.filter (!·.isMarker))
  inTurn : ∀ earlier turn command later, events = earlier ++ .dispatched turn command :: later →
    ∃ before rest b, commands = before ++ command :: rest ∧
      after? cfg screen before = some b ∧ b.journal.events = earlier ∧
      ((∀ kind, command ≠ .enableAuto kind) → command ≠ .repeatAttack → command ≠ .exit →
        InTurn cfg screen before earlier turn)

variable {cfg : Settings} {rounds : Nat} {lines : List String} {screen : Screen} {report : Report}

theorem inTurn_of_sync {b₀ b : Battle}
    (hanchor : (findAnchor cfg).run.run (.start screen) = (.ok true, b₀))
    (hstart : Asides cfg.Clicks (.start screen) b₀)
    (hs : (steps cfg before).run.run b₀ = (.ok (), b)) (hmode : b.state.autoMode = .manual)
    (hsync : b.state.currentTurn = b.state.targetTurn) :
    InTurn cfg screen before b.journal.events b.state.currentTurn := by
  have h₀ : b₀.Replayed := (Replayed.start screen).moves (K := fun _ => True) (Asides.moves hstart)
  have replayed {commands : List Command} {b : Battle}
      (hs : (steps cfg commands).run.run b₀ = (.ok (), b)) : b.Replayed :=
    h₀.moves (steps_moves_any hs)
  have hb := replayed hs
  refine ⟨by rw [hb, Option.map_some, ← hmode]; rfl, ?_⟩
  rcases splitAtMarker before with hblock | ⟨earlier, n, block, rfl, hblock⟩
  · have hturn : b.state.currentTurn = 1 := by
      rw [hsync, (block_moves hblock hs).targetTurn (fun h => h rfl), Asides.state hstart]
      rfl
    refine ⟨[], before, 1, [], b.journal.events, rfl, hblock, .start, rfl, ?_, fun _ => hturn⟩
    exact (Replayed.start screen).no_turnEnded hb rfl hturn
  · rw [List.append_cons, steps_append] at hs
    obtain ⟨_, b₁, hs₁, hs₂⟩ := run_bind_ok hs
    obtain ⟨_, _, _, hentered⟩ := steps_concat_ok hs₁
    obtain ⟨hle, hstrict⟩ := hentered n rfl
    have hmoves := block_moves hblock hs₂
    have htarget := hmoves.targetTurn (fun h => h rfl)
    -- the target is not ahead when the block opens and is reached when the command comes: no turn
    -- can have passed in between
    have hforward := hmoves.currentTurn_le
    obtain ⟨since, hevents, -⟩ := hmoves.tells
    refine ⟨earlier ++ [.turn n], block, n.toNat, b₁.journal.events, since, List.append_cons ..,
      hblock, .marker ((after?_eq_some hanchor).2 hs₁), hevents, ?_, fun h => ?_⟩
    · exact (replayed hs₁).no_turnEnded hb hevents (by omega)
    · rw [hsync, htarget, hstrict h]

theorem dispatched_in_turn (h : (run cfg rounds lines screen).result = .ok report) :
    ∃ script, Script.parse lines = .ok script ∧
      Dispatching cfg screen script.commands report.events := by
  obtain @⟨script, b₀, outcome, b, hscript, hanchor, hstart, hend, -, -⟩ := over_of_ok h
  have told : Told cfg script.commands b₀ (b.final outcome).journal.events := by
    rw [final_events]
    refine ((Told.of_asides hstart).ends hend).silent fun e hmem => ?_
    cases List.mem_singleton.1 hmem
    rfl
  refine ⟨script, hscript, told.sublist, fun earlier turn command later hsplit => ?_⟩
  obtain ⟨hc, hs, rfl, rfl, ha, hd⟩ := told.split earlier turn command later hsplit
  refine ⟨_, _, _, hc, (after?_eq_some hanchor).2 hs, rfl, fun hauto hrepeat hexit => ?_⟩
  obtain ⟨hmode, hsync⟩ := hd.inTurn hauto hrepeat hexit
  rw [ha.state] at hmode hsync
  exact inTurn_of_sync hanchor hstart hs hmode hsync

/-- The attack of the first turn brings the loot; the second turn is not reached. -/
theorem dispatched_in_turn_loot :
    let lines := ["turn 1:", "quicksummon", "end", "turn 2:", "end"]
    let screen := Screen.ofScenario
      { visible := ["attack"], rules := [{ onClick := "attack", shows := ["loot_collected"] }] }
    ∃ report script, (run {} 10 lines screen).result = .ok report ∧
      Script.parse lines = .ok script ∧ Dispatching {} screen script.commands report.events := by
  intro lines screen
  have h : (run {} 10 lines screen).result = .ok
      { outcome := .lootCollected
        turnsCompleted := 1
        commandsDispatched := 2
        autoMode := .manual
        elapsed := .ofSeconds 5
        warnings := []
        events := [.turnStarted 1, .dispatched 1 (.quickSummon []),
          .recovered 1 .quickSummonNotReady, .dispatched 1 .endTurn, .turnEnded 1,
          .ended 2 .lootCollected] } := by decide +kernel
  obtain ⟨script, hscript, hdispatching⟩ := dispatched_in_turn h
  exact ⟨_, script, h, hscript, hdispatching⟩

end Fight
end BattlePilot
