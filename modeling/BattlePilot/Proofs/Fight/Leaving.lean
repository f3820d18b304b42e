import BattlePilot.Proofs.Fight.Over
import BattlePilot.Proofs.Screen.Received

/-! Leaving a battle, for a fallen party or by the script. It happens once at most; the script does
not go on after it, and no reward comes of it. -/

namespace BattlePilot

namespace Event

def isDispatched : Event → Bool
  | dispatched .. => true
  | _ => false

def isWipe : Event → Bool
  | partyWiped .. => true
  | _ => false

def isBackOut : Event → Bool
  | partyWiped _ .backOut => true
  | _ => false

def isExit : Event → Bool
  | dispatched _ .exit => true
  | _ => false

def leaves (e : Event) : Bool := e.isWipe || e.isExit

theorem isWipe_of_isBackOut {e : Event} (h : e.isBackOut = true) : e.isWipe = true := by
  cases e with
  | partyWiped => rfl
  | _ => cases h

theorem isBackOut_eq_false {e : Event} (h : e.isWipe = false) : e.isBackOut = false := by
  rw [Bool.eq_false_iff] at h ⊢
  exact mt isWipe_of_isBackOut h

end Event

namespace ScreenOp.Light

theorem not_home {op : ScreenOp} (h : op.Light W) : op.input?.toList.count .home = 0 := by
  cases op with
  | input i =>
    cases i with
    | home => cases h
    | _ => rfl
  | _ => rfl

theorem not_confirming {op : ScreenOp} {cfg : Settings} (h : op.Light cfg.Clicks)
    (hr : cfg.retreatsOnWipe = false) :
    ∀ i ∈ op.input?.toList, i.label? ≠ some "retreat_confirmation" := by
  have hclicks (label : String) (hl : isWeighty label = false ∨ cfg.Clicks label) :
      some label ≠ some "retreat_confirmation" := by
    intro heq
    cases heq
    rcases hl with hl | hl
    · exact absurd hl (by decide)
    · rw [hl rfl] at hr
      cases hr
  intro i hi
  cases op with
  | input j =>
    cases List.mem_singleton.1 hi
    cases i with
    | click label | doubleClick label => exact hclicks label h
    | _ => nofun
  | _ => cases hi

end ScreenOp.Light

namespace Journal

def sent (j : Journal) : List Input :=
  j.filterMap fun entry => entry.input?.map (·.2)

@[simp] theorem sent_call (clock : Span) (op : ScreenOp) (answer : ScreenAnswer) (j : Journal) :
    sent (.call clock op answer :: j) = op.input?.toList ++ sent j := by
  cases op <;> rfl

end Journal

namespace Battle

/-- The screen has received what the journal holds. -/
def Received (before : List Input) (b : Battle) : Prop :=
  b.screen.inputs = b.journal.sent ++ before

theorem Received.answered {b : Battle} (hb : b.Received before)
    (h : b.screen.perform? op = some (answer, s)) : (b.answered op answer s).Received before := by
  rw [Received, Battle.answered, Journal.sent_call, List.append_assoc, ← hb]
  exact Screen.perform?_inputs h

theorem Received.step (h : Step cfg K b b') (hb : b.Received before) : b'.Received before := by
  cases h with
  | aside h =>
    cases h with
    | ask h =>
      cases h with
      | mk _ h => exact hb.answered h
    | _ => exact hb
  | deed _ h =>
    cases h with
    | backedOut _ _ h => exact Received.answered (b := b) hb h
    | left _ h => exact Received.answered (b := b.counted .exit) hb h
    | _ => exact hb

/-- What the events and the inputs of a battle tell of its being left. -/
structure Leaving (cfg : Settings) (b : Battle) : Prop where
  once : b.journal.events.countP Event.isWipe + b.journal.events.countP Event.isExit =
    b.state.retreated.toNat
  final : b.journal.events.Pairwise fun e later => e.leaves = true → later.isDispatched = false
  home : b.journal.sent.count .home =
    b.journal.events.countP Event.isBackOut + b.journal.events.countP Event.isExit
  backsOut : cfg.retreatsOnWipe = false → cfg.backsOutOnWipe = true →
    ∀ turn response, .partyWiped turn response ∈ b.journal.events → response = .backOut
  stands : cfg.retreatsOnWipe = false →
    ∀ i ∈ b.journal.sent, i.label? ≠ some "retreat_confirmation"

namespace Leaving

variable {cfg : Settings} {b b' : Battle}

theorem start (screen : Screen) : Leaving cfg (.start screen) where
  once := rfl
  final := .nil
  home := rfl
  backsOut _ _ := nofun
  stands _ := nofun

theorem counts_of_stays (hb : Leaving cfg b) (hs : b.state.retreated = false) :
    b.journal.events.countP Event.isWipe = 0 ∧ b.journal.events.countP Event.isExit = 0 := by
  have h := hb.once
  rwa [hs, Bool.toNat_false, Nat.add_eq_zero_iff] at h

/-- A battle that stays shows no sign of having been left. -/
theorem of_stays (hb : Leaving cfg b) (hs : b.state.retreated = false) :
    ∀ e ∈ b.journal.events, e.leaves = false := by
  have h := hb.counts_of_stays hs
  rw [List.countP_eq_zero, List.countP_eq_zero] at h
  intro e hmem
  rw [Event.leaves, eq_false_of_ne_true (h.1 e hmem), eq_false_of_ne_true (h.2 e hmem)]
  rfl

theorem of_left (hb : Leaving cfg b) (hl : b.state.retreated = true) :
    ∃ e ∈ b.journal.events, e.leaves = true := by
  have h := hb.once
  rw [hl, Bool.toNat_true] at h
  have hpos : 0 < b.journal.events.countP Event.isWipe ∨
      0 < b.journal.events.countP Event.isExit := by omega
  rw [List.countP_pos_iff, List.countP_pos_iff] at hpos
  rcases hpos with ⟨e, hmem, he⟩ | ⟨e, hmem, he⟩
  · exact ⟨e, hmem, Bool.or_eq_true_iff.2 (.inl he)⟩
  · exact ⟨e, hmem, Bool.or_eq_true_iff.2 (.inr he)⟩

theorem retreated (hb : Leaving cfg b) (hl : ∃ e ∈ b.journal.events, e.leaves = true) :
    b.state.retreated = true := by
  obtain ⟨e, hmem, he⟩ := hl
  refine eq_true_of_ne_false fun hs => ?_
  rw [hb.of_stays hs e hmem] at he
  cases he

theorem wiped_le (hb : Leaving cfg b) : b.journal.events.countP Event.isWipe ≤ 1 := by
  have h := hb.once
  have hbound := Bool.toNat_le b.state.retreated
  omega

theorem home_le (hb : Leaving cfg b) : b.journal.sent.count .home ≤ 1 := by
  have h := hb.once
  have hhome := hb.home
  have hbound := Bool.toNat_le b.state.retreated
  have hback : b.journal.events.countP Event.isBackOut ≤ b.journal.events.countP Event.isWipe :=
    List.countP_mono_left fun e _ => Event.isWipe_of_isBackOut
  omega

/-! What each kind of step adds. -/

theorem answered (hb : Leaving cfg b) (hop : op.Light cfg.Clicks) :
    Leaving cfg (b.answered op answer s) := by
  have hevents : (b.answered op answer s).journal.events = b.journal.events :=
    Journal.events_call ..
  have hsent : (b.answered op answer s).journal.sent = op.input?.toList ++ b.journal.sent :=
    Journal.sent_call ..
  constructor
  case once =>
    rw [hevents]
    exact hb.once
  case final =>
    rw [hevents]
    exact hb.final
  case home =>
    rw [hevents, hsent, List.count_append, hop.not_home, Nat.zero_add]
    exact hb.home
  case backsOut =>
    rw [hevents]
    exact hb.backsOut
  case stands =>
    intro hr i hi
    rw [hsent] at hi
    rcases List.mem_append.1 hi with hi | hi
    · exact hop.not_confirming hr i hi
    · exact hb.stands hr i hi

/-- Only a battle that stays dispatches, and then nothing before has left it. -/
theorem final_concat {e : Event} (hb : Leaving cfg b)
    (hd : e.isDispatched = true → b.state.retreated = false) :
    (b.journal.events ++ [e]).Pairwise fun e later =>
      e.leaves = true → later.isDispatched = false := by
  rw [List.pairwise_append]
  refine ⟨hb.final, List.pairwise_singleton .., fun earlier hmem later hlater hleft => ?_⟩
  cases List.mem_singleton.1 hlater
  rw [Bool.eq_false_iff]
  intro hd'
  rw [hb.of_stays (hd hd') earlier hmem] at hleft
  cases hleft

theorem backsOut_concat {e : Event} (hb : Leaving cfg b) (hr : cfg.retreatsOnWipe = false)
    (hback : cfg.backsOutOnWipe = true) (he : e.isWipe = true → e.isBackOut = true) :
    ∀ turn response, .partyWiped turn response ∈ b.journal.events ++ [e] → response = .backOut := by
  intro turn response hmem
  rw [List.mem_append, List.mem_singleton] at hmem
  rcases hmem with hmem | rfl
  · exact hb.backsOut hr hback turn response hmem
  · have h := he rfl
    cases response with
    | backOut => rfl
    | _ => cases h

/-- An event that tells of no leaving. -/
theorem noted (hb : Leaving cfg b) (hj : b'.journal.events = b.journal.events ++ [e])
    (hi : b'.journal.sent = b.journal.sent) (hr : b'.state.retreated = b.state.retreated)
    (he : e.leaves = false) (hd : e.isDispatched = true → b.state.retreated = false) :
    Leaving cfg b' := by
  obtain ⟨hw, hx⟩ := Bool.or_eq_false_iff.1 he
  constructor
  case once => simpa [hj, hr, hw, hx] using hb.once
  case final =>
    rw [hj]
    exact hb.final_concat hd
  case home => simpa [hj, hi, hx, Event.isBackOut_eq_false hw] using hb.home
  case backsOut =>
    rw [hj]
    exact fun hr hback => hb.backsOut_concat hr hback fun h => by rw [hw] at h; cases h
  case stands =>
    rw [hi]
    exact hb.stands

/-- The event by which a battle that stayed is left. -/
theorem left (hb : Leaving cfg b) (hs : b.state.retreated = false)
    (hj : b'.journal.events = b.journal.events ++ [e]) (hr : b'.state.retreated = true)
    (he : e.isWipe = !e.isExit)
    (hi : b'.journal.sent = (if e.isBackOut || e.isExit then [.home] else []) ++ b.journal.sent)
    (hback : cfg.retreatsOnWipe = false → cfg.backsOutOnWipe = true → e.isWipe = true →
      e.isBackOut = true) : Leaving cfg b' := by
  obtain ⟨hw, hx⟩ := hb.counts_of_stays hs
  constructor
  case once =>
    rw [hj, hr, List.countP_append, List.countP_append, hw, hx, List.countP_singleton,
      List.countP_singleton, he]
    cases e.isExit <;> rfl
  case final =>
    rw [hj]
    exact hb.final_concat fun _ => hs
  case home =>
    rw [hj, hi, List.count_append, List.countP_append, List.countP_append, hb.home,
      List.countP_singleton, List.countP_singleton]
    -- an exit is no wipe, so that at most one of the two has sent the party home
    cases hexit : e.isExit with
    | false =>
      cases e.isBackOut with
      | false => simp
      | true =>
        simp
        omega
    | true =>
      rw [hexit] at he
      rw [Event.isBackOut_eq_false he]
      simp
      omega
  case backsOut =>
    rw [hj]
    exact fun hr hb' => hb.backsOut_concat hr hb' (hback hr hb')
  case stands =>
    intro hr i hmem
    rw [hi, List.mem_append] at hmem
    rcases hmem with hmem | hmem
    · split at hmem
      · cases List.mem_singleton.1 hmem
        nofun
      · cases hmem
    · exact hb.stands hr i hmem

theorem does (h : Does cfg d b b') (hb : Leaving cfg b) : Leaving cfg b' := by
  cases h with
  | turnEnded | enabled | suspended | opened | skipped =>
    exact hb.noted (Journal.events_event ..) rfl rfl rfl nofun
  | released | attacksOn | aimed => exact ⟨hb.once, hb.final, hb.home, hb.backsOut, hb.stands⟩
  | @wiped b response hs hr =>
    refine hb.left hs (Journal.events_event ..) rfl rfl ?_ fun h₁ h₂ _ => ?_
    · rcases hr with ⟨rfl, _⟩ | ⟨rfl, _⟩ <;> rfl
    · rcases hr with ⟨_, hr⟩ | ⟨_, hr⟩
      · rw [h₁] at hr
        cases hr
      · rw [h₂] at hr
        cases hr
  | backedOut hs hr hh =>
    refine hb.left (e := .partyWiped b.state.currentTurn .backOut) hs ?_ rfl rfl rfl
      fun _ _ _ => rfl
    exact (Journal.events_event ..).trans (congrArg (· ++ [_]) (Journal.events_call ..))
  | @dispatched b command hf he =>
    refine hb.noted (Journal.events_event ..) rfl rfl ?_ fun _ => hf.open.stays
    cases command with
    | exit => exact absurd rfl he
    | _ => rfl
  | left hf hh =>
    refine hb.left (e := .dispatched b.state.currentTurn .exit) hf.open.stays ?_ rfl rfl rfl
      fun _ _ => nofun
    exact (Journal.events_call ..).trans (Journal.events_event ..)

theorem step (h : Step cfg K b b') (hb : Leaving cfg b) : Leaving cfg b' := by
  cases h with
  | aside h =>
    cases h with
    | ask h =>
      cases h with
      | mk hop _ => exact hb.answered hop
    | setback | reloaded => exact hb.noted (Journal.events_event ..) rfl rfl rfl nofun
    | aim => exact ⟨hb.once, hb.final, hb.home, hb.backsOut, hb.stands⟩
  | deed _ h => exact hb.does h

theorem moves (h : Moves cfg K b b') (hb : Leaving cfg b) : Leaving cfg b' :=
  h.keeps (fun _ _ => step) hb

theorem final_of (hb : Leaving cfg b) (outcome : Outcome) : Leaving cfg (b.final outcome) :=
  hb.noted (b.final_events outcome) rfl rfl rfl nofun

end Leaving

/-- A battle that was left ends without loot, unless its time is up. -/
theorem Ends.of_left {b₀ b : Battle} (h : Ends cfg commands b₀ outcome b)
    (hl : b.state.retreated = true) : outcome = .noLoot ∨ outcome = .timeExceeded := by
  have stays {b' : Battle} (ho : b'.Open cfg) (hs : b.state = b'.state) : False := by
    rw [hs, ho.stays] at hl
    cases hl
  rcases h.verdict_or with h | ⟨-, -, b₁, b₂, -, -, hf, hc⟩
  · cases h with
    | found hf =>
      cases hf with
      | timeExceeded => exact .inr rfl
      | left | noLoot => exact .inl rfl
      | battleConcluded ho | expGained ho | lootCollected ho => exact (stays ho rfl).elim
    | dismissed hf hr =>
      cases hf with
      | battleConcluded ho => exact (stays ho hr.state).elim
  · exact (stays hf.open hc.asks.state).elim

end Battle

/-- In these modes a fallen party always goes home. -/
theorem Settings.goesHome {cfg : Settings}
    (h : cfg.farmingMode = .raid ∨ cfg.farmingMode = .dreadBarrage) :
    cfg.retreatsOnWipe = false ∧ cfg.backsOutOnWipe = true := by
  rcases h with h | h <;> simp [retreatsOnWipe, backsOutOnWipe, h]

/-- What leaving a battle means for its report, where the screen has received these inputs. -/
structure Report.Leaving (cfg : Settings) (received : List Input) (r : Report) : Prop where
  wipedOnce : r.events.countP Event.isWipe ≤ 1
  nothingAfter : r.events.Pairwise fun e later => e.leaves = true → later.isDispatched = false
  unrewarded : (∃ e ∈ r.events, e.leaves = true) →
    (r.outcome = .noLoot ∨ r.outcome = .timeExceeded) ∧ r.isSuccess = false
  home : received.count .home = r.events.countP Event.isBackOut + r.events.countP Event.isExit
  homeOnce : received.count .home ≤ 1
  backsOut : cfg.farmingMode = .raid ∨ cfg.farmingMode = .dreadBarrage →
    ∀ turn response, .partyWiped turn response ∈ r.events → response = .backOut
  stands : cfg.farmingMode = .raid ∨ cfg.farmingMode = .dreadBarrage →
    ∀ i ∈ received, i.label? ≠ some "retreat_confirmation"

namespace Fight
open Battle

variable {cfg : Settings} {rounds : Nat} {lines : List String} {screen : Screen} {report : Report}

/-- A battle is left once at most, and then nothing more is dispatched and nothing gained. -/
theorem report_leaving (h : (run cfg rounds lines screen).result = .ok report) :
    ∃ received, (run cfg rounds lines screen).screen.inputs = received ++ screen.inputs ∧
      report.Leaving cfg received ∧
      ((∃ e ∈ report.events, e.leaves = true) →
        (run cfg rounds lines screen).isSuccess = false) := by
  obtain @⟨script, b₀, outcome, b, -, -, -, hend, hmoves, hrun⟩ := over_of_ok h
  have hreceived : b.Received screen.inputs := hmoves.keeps (fun _ _ => .step) rfl
  have hb : Leaving cfg (b.final outcome) := ((Leaving.start screen).moves hmoves).final_of outcome
  have hleft (hl : ∃ e ∈ (b.final outcome).journal.events, e.leaves = true) :
      outcome = .noLoot ∨ outcome = .timeExceeded := hend.of_left (hb.retreated hl)
  refine ⟨b.journal.sent, ?_, ?_, fun hl => ?_⟩
  · rw [hrun]
    exact hreceived
  · constructor
    case wipedOnce => exact hb.wiped_le
    case nothingAfter => exact hb.final
    case unrewarded =>
      intro hl
      refine ⟨hleft hl, ?_⟩
      rcases hleft hl with rfl | rfl <;> rfl
    case home => exact hb.home
    case homeOnce => exact hb.home_le
    case backsOut =>
      intro hmode
      obtain ⟨hstands, hback⟩ := Settings.goesHome hmode
      exact hb.backsOut hstands hback
    case stands =>
      intro hmode
      exact hb.stands (Settings.goesHome hmode).1
  · rw [hrun]
    rcases hleft hl with rfl | rfl <;> rfl

/-- A party that falls in the first turn of a raid goes home. -/
theorem report_leaving_raid :
    let cfg : Settings := { farmingMode := .raid }
    let screen := Screen.ofScenario
      { visible := ["attack", "party_wipe_indicator"]
        rules := [{ onClick := "attack", hides := ["attack"] }] }
    let lines := ["turn 1:", "end", "quicksummon"]
    ∃ report received, (run cfg 10 lines screen).result = .ok report ∧
      (run cfg 10 lines screen).screen.inputs = received ++ screen.inputs ∧
      report.Leaving cfg received := by
  intro cfg screen lines
  have h : (run cfg 10 lines screen).result = .ok
      { outcome := .noLoot
        turnsCompleted := 1
        commandsDispatched := 1
        autoMode := .manual
        elapsed := .ofMillis 6500
        warnings := []
        events := [.turnStarted 1, .dispatched 1 .endTurn, .partyWiped 1 .backOut, .turnEnded 1,
          .ended 2 .noLoot] } := by decide +kernel
  obtain ⟨received, hreceived, hleaving, -⟩ := report_leaving h
  exact ⟨_, received, h, hreceived, hleaving⟩

end Fight
end BattlePilot
