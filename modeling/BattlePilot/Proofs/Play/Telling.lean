import BattlePilot.Proofs.Play.CommandCourses

/-! What a row of deeds tells: the events that it adds, which dispatch only what may be dispatched,
and the turns, which only go forward. -/

namespace BattlePilot

def Event.command? : Event → Option Command
  | dispatched _ command => some command
  | _ => none

namespace Battle
variable {cfg : Settings} {K : Deed → Prop}

/-- The events between two battles; they dispatch only what may be dispatched. -/
def Tells (K : Deed → Prop) (since : List Event) (b b' : Battle) : Prop :=
  b'.journal.events = b.journal.events ++ since ∧
    ∀ e ∈ since, ∀ command, e.command? = some command → K (.dispatched command)

theorem Tells.nothing {b b' : Battle} (h : b'.journal.events = b.journal.events) :
    Tells K [] b b' := ⟨h.trans (List.append_nil _).symm, nofun⟩

theorem Tells.one {b b' : Battle} (h : b'.journal.events = b.journal.events ++ [e])
    (he : ∀ command, e.command? = some command → K (.dispatched command)) : Tells K [e] b b' := by
  refine ⟨h, fun e' hmem => ?_⟩
  cases List.mem_singleton.1 hmem
  exact he

theorem Tells.trans {b b₁ b' : Battle} (h : Tells K first b b₁) (h' : Tells K second b₁ b') :
    Tells K (first ++ second) b b' := by
  refine ⟨by rw [h'.1, h.1, List.append_assoc], fun e hmem => ?_⟩
  rcases List.mem_append.1 hmem with hmem | hmem
  · exact h.2 e hmem
  · exact h'.2 e hmem

theorem Tells.silent {b b' : Battle} (h : Tells K since b b')
    (hK : ∀ command, ¬ K (.dispatched command)) : ∀ e ∈ since, e.command? = none := by
  intro e hmem
  cases he : e.command? with
  | none => rfl
  | some command => exact absurd (h.2 e hmem command he) (hK command)

theorem Does.dispatched_events (h : Does cfg (.dispatched command) b b') :
    b'.journal.events = b.journal.events ++ [.dispatched b.state.currentTurn command] := by
  cases h with
  | dispatched => exact Journal.events_event ..
  | left => exact (Journal.events_call ..).trans (Journal.events_event ..)

theorem Does.not_marker (h : Does cfg (.dispatched command) b b') : command.isMarker = false := by
  cases h with
  | dispatched _ _ hn =>
    cases command with
    | turn n => exact absurd rfl (hn n)
    | _ => rfl
  | left => rfl

theorem Does.tells (hk : K d) (h : Does cfg d b b') : ∃ since, Tells K since b b' := by
  cases h with
  | released | attacksOn | aimed => exact ⟨[], .nothing rfl⟩
  | turnEnded | enabled | suspended | wiped | opened | skipped =>
    exact ⟨_, .one (Journal.events_event ..) nofun⟩
  | backedOut =>
    refine ⟨_, .one (e := .partyWiped b.state.currentTurn .backOut) ?_ nofun⟩
    exact (Journal.events_event ..).trans (congrArg (· ++ [_]) (Journal.events_call ..))
  | dispatched hf he hn hg =>
    refine ⟨_, .one (Does.dispatched hf he hn hg).dispatched_events fun c hc => ?_⟩
    cases hc
    exact hk
  | left hf hh =>
    refine ⟨_, .one (Does.left hf hh).dispatched_events fun c hc => ?_⟩
    cases hc
    exact hk

theorem Step.tells (h : Step cfg K b b') : ∃ since, Tells K since b b' := by
  cases h with
  | aside h =>
    cases h with
    | ask h => exact ⟨[], .nothing h.events⟩
    | setback | reloaded => exact ⟨_, .one (Journal.events_event ..) nofun⟩
    | aim => exact ⟨[], .nothing rfl⟩
  | deed hk h => exact h.tells hk

theorem Moves.tells (h : Moves cfg K b b') : ∃ since, Tells K since b b' := by
  induction h with
  | refl => exact ⟨[], .nothing rfl⟩
  | tail _ h ih =>
    obtain ⟨first, hfirst⟩ := ih
    obtain ⟨second, hsecond⟩ := h.tells
    exact ⟨first ++ second, hfirst.trans hsecond⟩

/-- Turns only go forward. -/
theorem Does.currentTurn_le (h : Does cfg d b b') : b.state.currentTurn ≤ b'.state.currentTurn := by
  cases h with
  | turnEnded => exact Nat.le_succ _
  | _ => exact Nat.le_refl _

theorem Moves.currentTurn_le (h : Moves cfg K b b') :
    b.state.currentTurn ≤ b'.state.currentTurn :=
  h.keeps_state (R := fun s => b.state.currentTurn ≤ s.currentTurn)
    (fun _ _ _ _ hd hle => Nat.le_trans hle hd.currentTurn_le) (Nat.le_refl _)

/-- Only a marker moves the target. -/
theorem Moves.targetTurn (hK : ¬ K .aimed) (h : Moves cfg K b b') :
    b'.state.targetTurn = b.state.targetTurn :=
  h.keeps_state (R := fun s => s.targetTurn = b.state.targetTurn)
    (fun _ _ _ hk hd ht => (hd.targetTurn fun h => hK (h ▸ hk)).trans ht) rfl

end Battle
end BattlePilot
