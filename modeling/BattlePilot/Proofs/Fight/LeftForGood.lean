import BattlePilot.Proofs.Fight.ConductedCommands

/-! Leaving for good. Once a battle was left, because the party fell or by the script, nothing more
is sent to the screen. There is one exception: where the party is found to have fallen after the
last look at a turn that automation was to play, that turn is submitted by hand all the same. -/

namespace BattlePilot

/-- Whether an event tells that the battle is left. -/
def Entry.leaves (e : Entry) : Bool := e.event?.any Event.leaves

namespace Journal

/-- Whether the battle was left just now: the party fell, or the script's exit went home. -/
def leaves : Journal → Bool
  | .event (.partyWiped ..) :: _ => true
  | .call _ (.input .home) _ :: .event (.dispatched _ .exit) :: _ => true
  | _ => false

/-- Whether automation plays, as the events tell. -/
def automatic (j : Journal) : Bool := (Replay.ofEvents? j.events).any (·.mode.isActive)

/-- The party fell after the looks at a turn that automation was to play, and the turn is submitted
by hand as if it had not: with so many attacks at most, and with reloads. -/
structure Overlooks (attacks : Nat) (later gone : Journal) : Prop where
  fell : ∃ turn response, ∃ earlier : Journal,
    gone = .event (.partyWiped turn response) :: earlier ∧
      Play.autoTurnLooks ≤ earlier.looksInTurn
  automatic : gone.automatic = true
  clicks : ∀ i ∈ later.sent, ∃ q, i = .click "attack" q ∨ i = .click "reload" q
  attacks_le : later.sent.countP (·.label? == some "attack") ≤ attacks

/-- After the battle was left nothing is sent, but where the fall of the party is overlooked. -/
def LeftForGood (j : Journal) : Prop :=
  ∀ later gone : Journal, j = later ++ gone → gone.leaves = true →
    later.sent = [] ∨ Overlooks 1 later gone

/-- The battle was left just now and not before. -/
inductive Departs : Journal → Prop
  | fell (h : ∀ e ∈ earlier, e.leaves = false) :
    Departs (.event (.partyWiped turn response) :: earlier)
  | wentHome (h : ∀ e ∈ earlier, e.leaves = false) :
    Departs (.call clock (.input .home) answer :: .event (.dispatched turn .exit) :: earlier)

variable {later gone : Journal}

theorem sent_cons_of_none {e : Entry} (he : e.input? = none) : sent (e :: later) = later.sent := by
  rw [sent, List.filterMap_cons, he]
  rfl

theorem mem_sent (h : .call clock (.input i) answer ∈ later) : i ∈ later.sent :=
  List.mem_filterMap.2 ⟨_, h, rfl⟩

/-- Sleep sends nothing and is no event. -/
theorem Sleeps.silent {sleeps : Journal} (h : sleeps.Sleeps) (j : Journal) :
    sleeps.sent = [] ∧ events (sleeps ++ j) = j.events := by
  refine ⟨List.filterMap_eq_nil_iff.2 fun e he => ?_, ?_⟩
  · have hasks := h e he
    cases e with
    | call clock op answer =>
      obtain ⟨d, rfl⟩ := hasks
      rfl
    | event => exact hasks.elim
  · rw [events, events, List.reverse_append, List.filterMap_append,
      List.filterMap_eq_nil_iff.2 fun e he => (h e (List.mem_reverse.1 he)).event?,
      List.append_nil]

theorem exists_leaves (h : gone.leaves = true) : ∃ e ∈ gone, e.leaves = true := by
  unfold leaves at h
  split at h
  · exact ⟨_, List.mem_cons_self, rfl⟩
  · exact ⟨_, List.mem_cons_of_mem _ List.mem_cons_self, rfl⟩
  · cases h

theorem leaves_eq_false {j : Journal} (h : ∀ e ∈ j, e.leaves = false) (hj : j = later ++ gone) :
    gone.leaves = false := by
  refine eq_false_of_ne_true fun hleaves => ?_
  obtain ⟨e, he, htells⟩ := exists_leaves hleaves
  rw [h e (hj ▸ List.mem_append_right _ he)] at htells
  cases htells

namespace Departs

/-- What comes after it is not taken for the leaving. -/
theorem not_later (hlater : ∀ e ∈ later, e.leaves = false) (hhome : .home ∉ later.sent)
    (hne : later ≠ []) : Journal.leaves (later ++ gone) = false := by
  match later, hne with
  | .event e :: later, _ =>
    cases e with
    | partyWiped => exact absurd (hlater _ List.mem_cons_self) Bool.noConfusion
    | _ => rfl
  | .call clock op answer :: later, _ =>
    cases op with
    | input i =>
      cases i with
      | home => exact absurd (mem_sent List.mem_cons_self) hhome
      | _ => rfl
    | _ => rfl

/-- Nothing before it is taken for the leaving. -/
theorem not_earlier (h : Departs gone) (hj : gone = later ++ earlier) (hne : later ≠ []) :
    Journal.leaves earlier = false := by
  cases later with
  | nil => exact absurd rfl hne
  | cons e later =>
    cases h with
    | fell h =>
      rw [List.cons_append, List.cons.injEq] at hj
      exact leaves_eq_false h hj.2
    | wentHome h =>
      rw [List.cons_append, List.cons.injEq] at hj
      cases later with
      | nil =>
        rw [← show _ = earlier from hj.2]
        rfl
      | cons e later =>
        rw [List.cons_append, List.cons.injEq] at hj
        exact leaves_eq_false h hj.2.2

theorem unique (h : Departs gone) (hlater : ∀ e ∈ later, e.leaves = false)
    (hhome : .home ∉ later.sent) (hsplit : later ++ gone = later' ++ gone')
    (h' : Journal.leaves gone' = true) : later = later' ∧ gone = gone' := by
  rcases List.append_eq_append_iff.1 hsplit with ⟨more, rfl, hgone⟩ | ⟨more, rfl, hgone⟩
  · by_cases hne : more = []
    · subst hne
      exact ⟨(List.append_nil _).symm, hgone⟩
    · rw [h.not_earlier hgone hne] at h'
      cases h'
  · by_cases hne : more = []
    · subst hne
      exact ⟨List.append_nil _, hgone.symm⟩
    · rw [hgone, not_later (fun e he => hlater e (List.mem_append_right _ he)) ?_ hne] at h'
      · cases h'
      · refine fun hmem => hhome ?_
        rw [sent, List.filterMap_append]
        exact List.mem_append_right _ hmem

end Departs

namespace Overlooks

theorem mono (h : Overlooks n later gone) (hle : n ≤ n') : Overlooks n' later gone :=
  { h with attacks_le := Nat.le_trans h.attacks_le hle }

theorem cons (h : Overlooks n later gone) (he : e.input? = none) :
    Overlooks n (e :: later) gone where
  fell := h.fell
  automatic := h.automatic
  clicks := by
    rw [sent_cons_of_none he]
    exact h.clicks
  attacks_le := by
    rw [sent_cons_of_none he]
    exact h.attacks_le

theorem reload (h : Overlooks n later gone) (clock : Span) (q : Point) (answer : ScreenAnswer) :
    Overlooks n (.call clock (.input (.click "reload" q)) answer :: later) gone where
  fell := h.fell
  automatic := h.automatic
  clicks := List.forall_mem_cons.2 ⟨⟨q, .inr rfl⟩, h.clicks⟩
  attacks_le := by
    rw [Journal.sent_call]
    exact h.attacks_le

theorem strike (h : Overlooks n later gone) (clock : Span) (q : Point) (answer : ScreenAnswer) :
    Overlooks (n + 1) (.call clock (.input (.click "attack" q)) answer :: later) gone where
  fell := h.fell
  automatic := h.automatic
  clicks := List.forall_mem_cons.2 ⟨⟨q, .inl rfl⟩, h.clicks⟩
  attacks_le := by
    rw [Journal.sent_call, List.countP_append, Nat.add_comm n]
    exact Nat.add_le_add_left h.attacks_le 1

end Overlooks
end Journal

namespace Stage

/-- What was sent since the battle was left, at a stage. -/
def Sent (later gone : Journal) : Stage → Prop
  | lapsed struck => Journal.Overlooks struck.toNat later gone
  | _ => later.sent = [] ∨ Journal.Overlooks 1 later gone

variable {p : Stage} {later gone : Journal}

theorem ne_lapsed (hp : p.watches = true) (struck : Bool) : p ≠ .lapsed struck := by
  rintro rfl
  cases hp

theorem Sent.weaken (h : Sent later gone p) : later.sent = [] ∨ Journal.Overlooks 1 later gone := by
  cases p with
  | lapsed struck => exact .inr (h.mono (Bool.toNat_le struck))
  | _ => exact h

theorem Sent.cons (h : Sent later gone p) (he : e.input? = none) : Sent (e :: later) gone p := by
  have cons (h : later.sent = [] ∨ Journal.Overlooks 1 later gone) :
      Journal.sent (e :: later) = [] ∨ Journal.Overlooks 1 (e :: later) gone := by
    rw [Journal.sent_cons_of_none he]
    exact h.imp_right fun h => h.cons he
  cases p with
  | lapsed struck => exact Journal.Overlooks.cons h he
  | _ => exact cons h

/-- What may be asked once the battle was left. -/
theorem Sent.asked {s : BattleState} (h : Sent later gone p) (hop : p.May s op)
    (hs : s.retreated = true) (clock : Span) (answer : ScreenAnswer) :
    Sent (.call clock op answer :: later) gone p := by
  rcases hop with hop | hop
  · refine h.cons ?_
    cases op with
    | input => cases hop
    | _ => rfl
  · cases p with
    | lapsed struck =>
      obtain ⟨q, rfl⟩ := hop
      exact h.reload ..
    | _ =>
      rw [hs] at hop
      cases hop

theorem Sent.home_not_mem (h : Sent later gone p) : .home ∉ later.sent := by
  intro hmem
  rcases h.weaken with h | h
  · rw [h] at hmem
    cases hmem
  · obtain ⟨q, hq | hq⟩ := h.clicks _ hmem <;> cases hq

end Stage

namespace Battle

/-- Where a fight stands with leaving the battle, at a stage. -/
inductive Leaves (p : Stage) (b : Battle) : Prop
  | stays (hs : b.state.retreated = false) (hj : ∀ e ∈ b.journal, e.leaves = false)
  | left (later gone : Journal) (hs : b.state.retreated = true) (hj : b.journal = later ++ gone)
      (hg : gone.Departs) (hl : ∀ e ∈ later, e.leaves = false) (hsent : p.Sent later gone)

namespace Leaves

variable {p q : Stage} {b b' : Battle}

/-- One more entry that tells of no leaving. -/
theorem entry (h : Leaves p b) (hj : b'.journal = e :: b.journal)
    (hr : b'.state.retreated = b.state.retreated) (he : e.leaves = false)
    (hi : ∀ later gone, b.state.retreated = true → p.Sent later gone → q.Sent (e :: later) gone) :
    Leaves q b' := by
  cases h with
  | stays hs hleaves =>
    refine .stays (hr.trans hs) ?_
    rw [hj, List.forall_mem_cons]
    exact ⟨he, hleaves⟩
  | left later gone hs hsplit hg hl hsent =>
    refine .left (e :: later) gone (hr.trans hs) ?_ hg ?_ (hi later gone hs hsent)
    · rw [hj, hsplit]
      rfl
    · rw [List.forall_mem_cons]
      exact ⟨he, hl⟩

theorem event (h : Leaves p b) (hj : b'.journal = .event e :: b.journal)
    (hr : b'.state.retreated = b.state.retreated) (he : e.leaves = false) : Leaves p b' :=
  h.entry hj hr he fun _ _ _ hsent => hsent.cons rfl

theorem kept (h : Leaves p b) (hj : b'.journal = b.journal)
    (hr : b'.state.retreated = b.state.retreated) : Leaves p b' := by
  cases h with
  | stays hs hleaves => exact .stays (hr.trans hs) (hj ▸ hleaves)
  | left later gone hs hsplit hg hl hsent =>
    exact .left later gone (hr.trans hs) (hj.trans hsplit) hg hl hsent

theorem goOn (h : Leaves p b) (hq : ∀ struck, q ≠ .lapsed struck) : Leaves q b := by
  cases h with
  | stays hs hleaves => exact .stays hs hleaves
  | left later gone hs hsplit hg hl hsent =>
    refine .left later gone hs hsplit hg hl ?_
    cases q with
    | lapsed struck => exact absurd rfl (hq struck)
    | _ => exact hsent.weaken

/-- Automation leaves a turn alone: if the battle was left, that was the last thing. -/
theorem lapsed (h : Leaves p b) (hreplayed : b.Replayed) (hm : b.state.autoMode.isActive = true)
    (hr : b.state.retreated = true → b.FellAfter Play.autoTurnLooks) :
    Leaves (.lapsed false) b := by
  cases h with
  | stays hs hleaves => exact .stays hs hleaves
  | left later gone hs hsplit hg hl hsent =>
    obtain ⟨sleeps, turn, response, earlier, hj, hsleeps, hlooks⟩ := hr hs
    obtain ⟨rfl, rfl⟩ := hg.unique hl hsent.home_not_mem (hsplit.symm.trans hj) rfl
    obtain ⟨hsent, hevents⟩ := hsleeps.silent (.event (.partyWiped turn response) :: earlier)
    refine .left later _ hs hsplit hg hl ⟨⟨turn, response, earlier, rfl, hlooks⟩, ?_, ?_, ?_⟩
    · rw [Journal.automatic, ← hevents, ← hj, hreplayed]
      exact hm
    · rw [hsent]
      nofun
    · rw [hsent]
      exact Nat.le_refl _

theorem dispatched (h : Leaves p b) (he : command ≠ .exit) :
    Leaves p (b.counted command) := by
  refine h.event rfl rfl ?_
  cases command with
  | exit => exact absurd rfl he
  | _ => rfl

/-- In a battle that stays, nothing has told of its being left. -/
theorem of_stays (h : Leaves p b) (hs : b.state.retreated = false) :
    ∀ e ∈ b.journal, e.leaves = false := by
  cases h with
  | stays _ hj => exact hj
  | left _ _ hl =>
    rw [hs] at hl
    cases hl

/-- The battle is left now. -/
theorem departs (hs : b.state.retreated = true) (hj : b.journal.Departs)
    (hp : ∀ struck, p ≠ .lapsed struck) : Leaves p b := by
  refine .left [] b.journal hs rfl hj nofun ?_
  cases p with
  | lapsed struck => exact absurd rfl (hp struck)
  | _ => exact .inl rfl

theorem leftForGood (h : Leaves p b) : b.journal.LeftForGood := by
  intro later gone hsplit hleaves
  cases h with
  | stays hs hj =>
    rw [Journal.leaves_eq_false hj hsplit] at hleaves
    cases hleaves
  | left _ _ hs hj hg hl hsent =>
    obtain ⟨rfl, rfl⟩ := hg.unique hl hsent.home_not_mem (hj.symm.trans hsplit) hleaves
    exact hsent.weaken

end Leaves

theorem Conduct.leaves (h : Conduct F t p b) : Leaves p b := by
  induction h with
  | start => exact .stays rfl nofun
  | asked h _ ih =>
    cases h with
    | mk hop => exact ih.entry rfl rfl rfl fun _ _ hs hsent => hsent.asked hop hs ..
  | setback _ _ ih | reloaded _ _ ih => exact ih.event rfl rfl rfl
  | anchored _ _ ih | concluded _ _ ih => exact ih.kept rfl rfl
  | fallen hp h _ ih =>
    cases h with
    | wiped hs => exact .departs rfl (.fell (ih.of_stays hs)) (Stage.ne_lapsed hp)
    | backedOut hs =>
      refine .departs rfl (.fell ?_) (Stage.ne_lapsed hp)
      exact List.forall_mem_cons.2 ⟨rfl, ih.of_stays hs⟩
  | submitted _ _ ih | resubmitted _ ih | gaveUp _ ih => exact ih.goOn nofun
  | lapsed hm hr hb ih => exact ih.lapsed (hb.replayed nofun) hm hr
  | struck _ _ ih => exact ih.entry rfl rfl rfl fun _ _ _ hsent => hsent.strike ..
  | turnEnded _ h _ ih =>
    cases h with
    | turnEnded => exact Leaves.event (ih.goOn nofun) rfl rfl rfl
  | overran _ _ ih => exact Leaves.event (ih.goOn nofun) rfl rfl rfl
  | began _ _ _ ih => exact Leaves.kept (ih.goOn nofun) rfl rfl
  | enabled _ _ h _ ih =>
    cases h with
    | enabled => exact Leaves.event (ih.goOn nofun) rfl rfl rfl
  | refused _ _ _ ih => exact Leaves.event (ih.goOn nofun) rfl rfl rfl
  | suspended _ _ h _ ih =>
    cases h with
    | suspended => exact ih.event rfl rfl rfl
  | dispatched h _ ih =>
    cases h with
    | dispatched _ he => exact ih.dispatched he
    | left hf => exact .departs rfl (.wentHome (ih.of_stays hf.open.stays)) nofun
  | attacksOn h _ ih =>
    cases h with
    | attacksOn => exact ih.kept rfl rfl
  | aimed _ h _ ih =>
    cases h with
    | aimed => exact ih.kept rfl rfl
  | opened h _ ih =>
    cases h with
    | opened => exact ih.event rfl rfl rfl
  | skipped h _ ih =>
    cases h with
    | skipped => exact ih.event rfl rfl rfl
  | done _ ih | entered _ _ _ ih | ranOut _ _ ih => exact ih

end Battle

namespace Fight
open Battle

theorem FollowsConduct.leftForGood (h : FollowsConduct F j) : j.LeftForGood := by
  cases h with
  | halted h =>
    obtain ⟨t, p, h⟩ := h
    exact h.leaves.leftForGood
  | @ended turn outcome b h =>
    obtain ⟨t, p, h⟩ := h
    have hended : (b.noted (.ended turn outcome)).Leaves p := h.leaves.event rfl rfl rfl
    exact hended.leftForGood

/-- At every point of a fight where the battle was left, nothing is sent to the screen from then on,
unless the fall of the party is overlooked. -/
theorem left_for_good (cfg : Settings) (rounds : Nat) (lines : List String) (screen : Screen) :
    (run cfg rounds lines screen).journal.LeftForGood := by
  obtain ⟨commands, hfollows, -⟩ := run_follows cfg rounds lines screen
  exact hfollows.leftForGood

/-- The party falls after the sixtieth look at a turn that automation is to play. It retreats, and
the attack button is clicked after that and the turn counted. -/
theorem attacked_after_leaving :
    let screen := Screen.ofScenario
      { visible := ["attack", "full_auto"]
        rules := [
          { onClick := "full_auto", hides := ["attack"], shows := ["dialog_lyria"] },
          { onClick := "dialog", nth := some 62
            shows := ["attack", "party_wipe_indicator", "continue"] }] }
    let f := run {} 10 ["enablefullauto", "turn 3:"] screen
    f.result = .ok
      { outcome := .noLoot
        turnsCompleted := 1
        commandsDispatched := 1
        autoMode := .fullAuto
        elapsed := .ofSeconds 35
        warnings := []
        events := [.dispatched 1 (.enableAuto .full), .autoModeChanged .manual .fullAuto,
          .partyWiped 1 .retreat, .turnEnded 1, .ended 2 .noLoot] } ∧
      Journal.leaves (f.journal.drop 10) = true ∧
      Journal.sent (f.journal.take 10) = [.click "attack" ⟨640, 480⟩] := by
  refine ⟨?_, ?_, ?_⟩
  · decide +kernel
  · decide +kernel
  · decide +kernel

end Fight
end BattlePilot
