import BattlePilot.Proofs.Play.Deed
import BattlePilot.Proofs.Play.Durations
import BattlePilot.Proofs.Play.QuietCourses
import BattlePilot.Proofs.Play.Sampling

/-! Looking after a fallen party leaves no trace where the battle is not left for it. All that is
done then is to look at the screen, with pauses in between, and the pauses alone change it. Content
that is backed out of is left whenever the party is seen to have fallen. -/

namespace BattlePilot

/-- The screen tells that the party has fallen. -/
def Screen.ShowsFallen (s : Screen) : Prop :=
  s.settle.isVisible "party_wipe_indicator" = true ∨ s.settle.isVisible "salute_participants" = true

/-- Looks at single elements, and pauses. -/
def ScreenOp.LooksOn : ScreenOp → Prop
  | .find _ | .confirm _ | .sleep _ => True
  | _ => False

namespace Battle

/-- Since `b` nothing was done but to look at the screen; it shows what it would show after so many
pauses at most. -/
structure LookedOn (b : Battle) (pause : Span) (limit : Nat) (b' : Battle) : Prop where
  asked : Asks ScreenOp.LooksOn b b'
  sampled : ∃ k ≤ limit, b.screen.sample? pause k = some b'.screen

namespace LookedOn

variable {b b' b'' : Battle} {pause : Span} {m n : Nat}

theorem mono (h : b.LookedOn pause m b') (hle : m ≤ n) : b.LookedOn pause n b' := by
  obtain ⟨k, hk, hs⟩ := h.sampled
  exact ⟨h.asked, k, Nat.le_trans hk hle, hs⟩

theorem trans (h : b.LookedOn pause m b') (h' : b'.LookedOn pause n b'') :
    b.LookedOn pause (m + n) b'' := by
  obtain ⟨j, hj, hs⟩ := h.sampled
  obtain ⟨k, hk, hs'⟩ := h'.sampled
  exact ⟨h.asked.trans h'.asked, j + k, Nat.add_le_add hj hk, (Screen.sample?_add hs k).trans hs'⟩

theorem asks (h : b.LookedOn pause n b') : Asks (fun _ => True) b b' :=
  Relation.ReflTransGen.mono (fun _ _ ha => ha.mono fun _ _ => trivial) _ _ h.asked

end LookedOn

/-- The battle once it was left for a fallen party. -/
def left (b : Battle) (exit : WipeExit) : Battle :=
  (b.inState fun s => { s with retreated := true }).noted (.partyWiped b.state.currentTurn exit)

/-- What comes of looking after a fallen party: the battle was left, or the screen looked on. -/
inductive Declines (cfg : Settings) (b : Battle) : Bool → Battle → Prop
  | left (hfallen : b.screen.ShowsFallen) (ha : Asks (fun _ => True) b b₁) (exit : WipeExit) :
    Declines cfg b true (b₁.left exit)
  | stays (hlooked : b.LookedOn cfg.retry.pollInterval 8 b')
      (hopen : b.screen.ShowsFallen → cfg.backsOutOnWipe = false) : Declines cfg b false b'

end Battle

namespace Play
open Battle

variable (cfg : Settings)

/-! ### Looking on -/

theorem look.looksOn (name : String) (pause : Span) (b : Battle) :
    Triple (· = b) (look name) (fun found b' => b.LookedOn pause 0 b' ∧
      b'.screen = b.screen.settle ∧ found.isSome = b.screen.settle.isVisible name)
      fun _ _ => False := by
  refine ⟨fun b' h => ?_⟩
  subst h
  rw [look_run]
  exact ⟨⟨.single (.mk trivial rfl), 0, Nat.le_refl _, rfl⟩, rfl, Screen.isSome_find ..⟩

theorem sees.looksOn (name : String) (pause : Span) (b : Battle) :
    Triple (· = b) (sees name) (fun seen b' => b.LookedOn pause 0 b' ∧
      seen = b.screen.settle.isVisible name) fun _ _ => False := by
  refine ⟨fun b' h => ?_⟩
  subst h
  rw [sees_run]
  exact ⟨⟨.single (.mk trivial rfl), 0, Nat.le_refl _, rfl⟩, rfl⟩

theorem confirm.looksOn (name : String) (b : Battle) :
    Triple (· = b) (confirm cfg name usualTries)
      (fun _ => b.LookedOn cfg.retry.pollInterval 4) fun _ _ => True := by
  have asks : Within (Ask ScreenOp.LooksOn) (confirm cfg name usualTries) :=
    confirm.asks cfg trivial (fun _ => trivial) _
  apply ((asks.entire b).both (confirm.samples cfg name usualTries b)).conseq
  · exact fun _ h => ⟨h, h⟩
  · rintro seen b' ⟨hasked, answer, -, hsought⟩
    exact ⟨hasked, hsought.sampled⟩
  · exact fun _ _ _ => trivial

/-- A question that is asked only under a condition adds its pauses at most. -/
theorem onlyIf.looksOn {b : Battle} {n : Nat} (condition : Bool) (name : String) :
    Triple (b.LookedOn cfg.retry.pollInterval n) (onlyIf condition (confirm cfg name usualTries))
      (fun _ => b.LookedOn cfg.retry.pollInterval (n + 4)) fun _ _ => True := by
  have asked : Triple (b.LookedOn cfg.retry.pollInterval n) (confirm cfg name usualTries)
      (fun _ => b.LookedOn cfg.retry.pollInterval (n + 4)) fun _ _ => True :=
    .of_eq fun b' hb => (confirm.looksOn cfg name b').mono_value fun _ _ h => hb.trans h
  exact (asked.onlyIf fun _ h => h.mono (Nat.le_add_right n 4)).mono_value fun _ _ h => h.2

/-! ### Leaving or not -/

theorem leaveFallen.looksOn (indicator : Option Point) (b : Battle) :
    Triple (b.LookedOn cfg.retry.pollInterval 0) (leaveFallen cfg indicator)
      (fun exit b' => exit = none →
        b.LookedOn cfg.retry.pollInterval 8 b' ∧ cfg.backsOutOnWipe = false)
      fun _ _ => True := by
  refine .bind (onlyIf.looksOn cfg _ "continue") fun offered => ?_
  split
  · -- whatever is clicked on the way, the battle is left
    refine .anyhow_bind fun _ => .anyhow_bind fun _ => ?_
    exact .anyhow_bind fun _ => .pure fun _ _ => nofun
  · split
    · exact .anyhow_bind fun _ => .pure fun _ _ => nofun
    · next hbacks =>
      refine .bind (onlyIf.looksOn cfg _ "salute_participants") fun offered => ?_
      split
      · refine .anyhow_bind fun _ => .anyhow_bind fun _ => .anyhow_bind fun _ => ?_
        exact .anyhow_bind fun _ => .anyhow_bind fun _ => .pure fun _ _ => nofun
      · exact .pure fun _ h _ => ⟨h, eq_false_of_ne_true hbacks⟩

theorem leaveFallen.declines (indicator : Option Point) {b : Battle}
    (hfallen : b.screen.ShowsFallen) :
    Triple (b.LookedOn cfg.retry.pollInterval 0) (do
        match ← leaveFallen cfg indicator with
        | some response =>
          modifyState fun s => { s with retreated := true }
          record (.partyWiped (← currentTurn) response)
          return true
        | none => return false) (Declines cfg b)
      fun halt b' => halt = .overflow ∧ Asks (fun _ => True) b b' := by
  have asks : Within (Ask fun _ => True) (leaveFallen cfg indicator) :=
    (leaveFallen.asks (W := fun _ => True) cfg trivial indicator).mono
      fun _ _ ha => ha.mono fun _ _ => trivial
  have leaving : Triple (b.LookedOn cfg.retry.pollInterval 0) (leaveFallen cfg indicator)
      (fun exit b' => Asks (fun _ => True) b b' ∧ (exit = none →
        b.LookedOn cfg.retry.pollInterval 8 b' ∧ cfg.backsOutOnWipe = false))
      fun halt b' => halt = .overflow ∧ Asks (fun _ => True) b b' :=
    ((asks b).both (leaveFallen.looksOn cfg indicator b)).conseq (fun _ h => ⟨h.asks, h⟩)
      (fun _ _ h => h) fun _ _ h => h.1
  refine .bind leaving fun exit => ?_
  cases exit with
  | some exit => exact ⟨fun b₁ h => .left hfallen h.1 exit⟩
  | none =>
    refine .pure fun b' h => ?_
    obtain ⟨hlooked, hbacks⟩ := h.2 rfl
    exact .stays hlooked fun _ => hbacks

/-- The second sign is looked for on the screen that was settled for the first. -/
theorem seesFallen.looksOn (indicator : Option Point) (pause : Span) (b b₁ : Battle)
    (hlooked : b.LookedOn pause 0 b₁) (hscreen : b₁.screen = b.screen.settle)
    (hindicator : indicator.isSome = b.screen.settle.isVisible "party_wipe_indicator") :
    Triple (· = b₁) (either (pure indicator.isSome) (sees "salute_participants"))
      (fun seen b' => (seen = true ↔ b.screen.ShowsFallen) ∧ b.LookedOn pause 0 b')
      fun _ _ => False := by
  have heither : either (pure indicator.isSome) (sees "salute_participants") =
      if indicator.isSome then pure true else sees "salute_participants" := rfl
  rw [heither]
  split
  · next hseen =>
    refine .pure fun b' h => ?_
    subst h
    exact ⟨iff_of_true rfl (.inl (hindicator ▸ hseen)), hlooked⟩
  · next hunseen =>
    apply (sees.looksOn "salute_participants" pause b₁).mono_value
    rintro seen b' ⟨h, hseen⟩
    rw [hscreen, Screen.settle_settle] at hseen
    rw [hindicator] at hunseen
    refine ⟨?_, hlooked.trans h⟩
    rw [hseen, Screen.ShowsFallen]
    exact (or_iff_right hunseen).symm

theorem wipeCheck.declines (b : Battle) :
    Triple (· = b) (wipeCheck cfg) (Declines cfg b)
      fun halt b' => halt = .overflow ∧ Asks (fun _ => True) b b' := by
  refine .bind ((look.looksOn _ cfg.retry.pollInterval b).mono_halt fun _ _ => False.elim)
    fun indicator => .of_eq fun b₁ ⟨hlooked, hscreen, hindicator⟩ => ?_
  refine .bind ((seesFallen.looksOn indicator _ b b₁ hlooked hscreen hindicator).mono_halt
    fun _ _ => False.elim) fun seen => .of_fact fun hseen => ?_
  split
  · next h => exact leaveFallen.declines cfg indicator (hseen.1 h)
  · next h =>
    refine .pure fun b' hlooked => .stays (hlooked.mono (Nat.zero_le 8)) fun hfallen => ?_
    exact absurd (hseen.2 hfallen) h

/-! ### How long it takes -/

/-- What may be clicked to leave a battle for a fallen party. -/
def exits : List String :=
  ["party_wipe_indicator", "cancel", "retreat_confirmation", "salute", "ok", "leave"]

theorem clickWipe.takes : ∀ indicator, Takes exits 0 (clickWipe indicator)
  | some position => click.takes (by decide) position
  | none => .pure _

theorem leaveFallen.takes (indicator : Option Point) :
    Takes exits (6 * (4 * cfg.retry.pollInterval.nanos)) (leaveFallen cfg indicator) := by
  have ask {condition : Bool} (name : String) : Takes exits (4 * cfg.retry.pollInterval.nanos)
      (onlyIf condition (confirm cfg name usualTries)) :=
    .onlyIf (confirm.takes cfg name usualTries)
  have press {name : String} (h : name ∈ exits) :
      Takes exits (4 * cfg.retry.pollInterval.nanos) (press cfg name) := press.takes cfg h
  have click : Takes exits 0 (clickWipe indicator) := clickWipe.takes indicator
  have home : Takes exits 0 (send .home) := .discard (perform.takes (.input .home) nofun)
  refine (ask "continue").bind_succ fun offered => ?_
  split
  · refine click.zero_bind fun _ => (press (by decide)).bind_succ fun _ => ?_
    exact (press (by decide)).bind_succ fun _ => .pure _
  · split
    · exact home.zero_bind fun _ => .pure _
    · refine (ask "salute_participants").bind_succ fun offered => ?_
      split
      · refine click.zero_bind fun _ => (press (by decide)).bind_succ fun _ => ?_
        refine (press (by decide)).bind_succ fun _ => (press (by decide)).bind_succ fun _ => ?_
        exact (press (by decide)).bind_succ fun _ => .pure _
      · exact .pure _

theorem wipeCheck.takes :
    Takes exits (24 * cfg.retry.pollInterval.nanos) (wipeCheck cfg) := by
  have seen {found : Bool} : Takes exits 0 (either (pure found) (sees "salute_participants")) := by
    apply Takes.zero_bind (.pure found)
    intro found
    split
    · exact .pure _
    · exact sees.takes _
  refine (look.takes _).zero_bind fun indicator => seen.zero_bind fun fallen => ?_
  split
  · refine ((leaveFallen.takes cfg indicator).bind_zero fun exit => ?_).mono (by omega)
    cases exit with
    | none => exact .pure _
    | some exit =>
      refine .zero_bind (.modify fun _ => rfl) fun _ => .turn_bind fun turn => ?_
      exact .zero_bind (.modify fun _ => rfl) fun _ => .pure _
  · exact .pure _

/-! ### Without pauses -/

/-- Content that is backed out of at once is left without a pause. -/
theorem leaveFallen_backOut (hr : cfg.retreatsOnWipe = false) (hb : cfg.backsOutOnWipe = true)
    (indicator : Option Point) : leaveFallen cfg indicator = do
      send .home
      return some .backOut := by
  simp [leaveFallen, onlyIf, hr, hb]

theorem wipeCheck.returns (hr : cfg.retreatsOnWipe = false) (hb : cfg.backsOutOnWipe = true) :
    Triple (fun _ => True) (wipeCheck cfg) (fun _ _ => True) fun _ _ => False := by
  have look (name : String) : Triple (fun _ => True) (look name) (fun _ _ => True)
      fun _ _ => False := ⟨fun _ _ => trivial⟩
  have seen {found : Bool} : Triple (fun _ => True)
      (either (pure found) (sees "salute_participants")) (fun _ _ => True) fun _ _ => False := by
    cases found <;> exact ⟨fun _ _ => trivial⟩
  refine .bind (look _) fun indicator => .bind seen fun fallen => ?_
  rw [leaveFallen_backOut cfg hr hb]
  split <;> exact ⟨fun _ _ => trivial⟩

/-! ### No trace -/

/-- What comes of looking after a fallen party. The battle is left, and that is noted once; or
nothing is noted, sent or known, and only the clock of the screen goes on. A number may leave its
range before that, but not where the battle is left without a pause. -/
inductive ChecksWipe (cfg : Settings) (b : Battle) : Except Halt Bool × Battle → Prop
  | left (hnew : b.Since new b') (hevents : new.events = [.partyWiped b.state.currentTurn exit])
      (hstate : b'.state = { b.state with retreated := true })
      (hkept : b'.anchor = b.anchor ∧ b'.dispatched = b.dispatched)
      (hfallen : b.screen.ShowsFallen) : ChecksWipe cfg b (.ok true, b')
  | stays (hnew : b.Since new b') (hevents : new.events = []) (hinputs : ∀ i, .input i ∉ new.ops)
      (hkept : b' = { b with screen := b'.screen, journal := b'.journal })
      (hclock : ∃ k ≤ 8, b.screen.sample? cfg.retry.pollInterval k = some b'.screen)
      (hopen : b.screen.ShowsFallen → cfg.backsOutOnWipe = false) : ChecksWipe cfg b (.ok false, b')
  | overflow (hnew : b.Since new b') (hevents : new.events = [])
      (hkept : b' = { b with screen := b'.screen, journal := b'.journal })
      (hover : b'.screen.Overruns exits
        (b.screen.now.nanos + 24 * cfg.retry.pollInterval.nanos))
      (hpauses : cfg.retreatsOnWipe = true ∨ cfg.backsOutOnWipe = false) :
    ChecksWipe cfg b (.error .overflow, b')

theorem ChecksWipe.of_declines (h : b.Declines cfg fallen b') :
    ChecksWipe cfg b (.ok fallen, b') := by
  cases h with
  | @left b₁ hfallen ha exit =>
    obtain ⟨new, hnew, -⟩ := ha.queried
    have hsince : b.Since new (b₁.inState fun s => { s with retreated := true }) :=
      hnew.toSince.kept rfl rfl
    have hnoted : Journal.events (.event (.partyWiped b₁.state.currentTurn exit) :: new) =
        [.partyWiped b.state.currentTurn exit] := by
      rw [Journal.events_event, hnew.events, hnew.state]
      rfl
    refine .left (hsince.noted _) hnoted ?_ ⟨hnew.anchor, hnew.dispatched⟩ hfallen
    rw [Battle.left, noted, inState, hnew.state]
  | stays hlooked hopen =>
    obtain ⟨new, hnew, hasked⟩ := hlooked.asked.queried
    refine .stays hnew.toSince hnew.events ?_ hnew.kept hlooked.sampled hopen
    exact fun i hi => Journal.forall_mem_ops hasked _ hi

/-- The answer tells whether the battle was left, and it leaves no trace if it was not. -/
theorem wipeCheck_leavesNoTrace (cfg : Settings) (b : Battle) :
    ChecksWipe cfg b ((wipeCheck cfg).run.run b) := by
  rcases hrun : (wipeCheck cfg).run.run b with ⟨halt | fallen, b'⟩
  · obtain ⟨rfl, ha⟩ := (wipeCheck.declines cfg b).of_error rfl hrun
    obtain ⟨-, -, hover⟩ := (wipeCheck.takes cfg _).of_error (Nat.le_refl _) hrun
    obtain ⟨new, hnew, -⟩ := ha.queried
    refine .overflow hnew.toSince hnew.events hnew.kept hover ?_
    cases hr : cfg.retreatsOnWipe with
    | true => exact .inl rfl
    | false =>
      cases hb : cfg.backsOutOnWipe with
      | true => exact ((wipeCheck.returns cfg hr hb).of_error trivial hrun).elim
      | false => exact .inr rfl
  · exact .of_declines cfg ((wipeCheck.declines cfg b).of_ok rfl hrun)

end Play
end BattlePilot
