import BattlePilot.Proofs.Play.Course

/-! Looking after a fallen party. The battle is left in the first of three ways that is open, and
only one that has not been left before: `Stays` is asked for, and not given back. -/

namespace BattlePilot

namespace Battle

/-- How the battle was left for a fallen party, before that is noted. -/
inductive LeavesBy (cfg : Settings) (b₀ : Battle) : Option WipeExit → Battle → Prop
  | stays (h : Asides cfg.Clicks b₀ b) : LeavesBy cfg b₀ none b
  | retreat (h : Asides cfg.Clicks b₀ b) (hr : cfg.retreatsOnWipe = true) :
    LeavesBy cfg b₀ (some .retreat) b
  | backOut (h : Asides cfg.Clicks b₀ b) (hr : cfg.backsOutOnWipe = true)
      (hh : b.screen.perform? (.input .home) = some (answer, s)) :
    LeavesBy cfg b₀ (some .backOut) (b.answered (.input .home) answer s)
  | leaveRoom (h : Asides cfg.Clicks b₀ b) (hr : cfg.backsOutOnWipe = false) :
    LeavesBy cfg b₀ (some .leaveRoom) b

end Battle

namespace Play
open Battle Relation

variable (cfg : Settings)

/-- Only an overflow cuts the leaving short, and then the battle has not been left. -/
theorem leaveFallen.leaves (indicator : Option Point) (b₀ : Battle) :
    Triple (Asides cfg.Clicks b₀) (leaveFallen cfg indicator) (LeavesBy cfg b₀)
      fun halt b => halt = .overflow ∧ Asides cfg.Clicks b₀ b := by
  have ask {condition : Bool} (name : String) :
      Triple (Asides cfg.Clicks b₀) (onlyIf condition (confirm cfg name usualTries))
        (fun a b => (a = true → condition = true) ∧ Asides cfg.Clicks b₀ b)
        fun halt b => halt = .overflow ∧ Asides cfg.Clicks b₀ b :=
    .onlyIf (confirm.quiet cfg name _ b₀) fun _ h => h
  refine .bind (ask "continue") fun offered => ?_
  split
  · next h =>
    refine .of_fact fun hr => ?_
    have hr := hr h
    refine .bind (clickWipe.quiet indicator b₀) fun _ => ?_
    refine .bind (press.quiet cfg (.inl rfl) b₀) fun _ => ?_
    exact .bind (press.quiet cfg (.inr fun _ => hr) b₀) fun _ =>
      .pure fun _ h => .retreat h hr
  · split
    · next hr =>
      refine .of_eq fun b ⟨_, hb⟩ => ⟨fun b' h => ?_⟩
      subst h
      exact .backOut hb hr rfl
    · next hr =>
      have hr := eq_false_of_ne_true hr
      refine .of_fact fun _ => .bind (ask "salute_participants") fun offered => ?_
      refine .of_fact fun _ => ?_
      split
      · refine .bind (clickWipe.quiet indicator b₀) fun _ => ?_
        refine .bind (press.quiet cfg (.inl rfl) b₀) fun _ => ?_
        refine .bind (press.quiet cfg (.inl rfl) b₀) fun _ => ?_
        refine .bind (press.quiet cfg (.inl rfl) b₀) fun _ => ?_
        exact .bind (press.quiet cfg (.inl rfl) b₀) fun _ =>
          .pure fun _ h => .leaveRoom h hr
      · exact .pure fun _ h => .stays h

/-- A party that has fallen is noted as the last thing, and the battle was not left before. -/
inductive Falls (cfg : Settings) (b₀ : Battle) : Bool → Battle → Prop
  | stays (h : Asides cfg.Clicks b₀ b) : Falls cfg b₀ false b
  | fallen (h : Asides cfg.Clicks b₀ b₁) (hd : Does cfg .fallen b₁ b) : Falls cfg b₀ true b

theorem wipeCheck.falls {b₀ : Battle} (hs : Stays b₀.state) :
    Triple (· = b₀) (wipeCheck cfg) (Falls cfg b₀)
      fun halt b => halt = .overflow ∧ Asides cfg.Clicks b₀ b := by
  have shown : Quiet cfg.Clicks (look "party_wipe_indicator") := look.quiet _
  have salutes : Quiet cfg.Clicks (sees "salute_participants") := sees.quiet _
  refine .bind (shown.entire b₀) fun indicator => ?_
  refine .bind (Within.either (.pure _) salutes b₀) fun seen => ?_
  split
  · refine .bind (leaveFallen.leaves cfg indicator b₀) fun response => ?_
    cases response with
    | none => exact .pure fun b h => by cases h with | stays h => exact .stays h
    | some response =>
      refine ⟨fun b h => ?_⟩
      cases h with
      | retreat h hr =>
        have hs : b.state.retreated = false := h.state ▸ hs
        exact .fallen h (.wiped hs (.inl ⟨rfl, hr⟩))
      | leaveRoom h hr =>
        have hs : b.state.retreated = false := h.state ▸ hs
        exact .fallen h (.wiped hs (.inr ⟨rfl, hr⟩))
      | @backOut b₁ _ _ h hr hh =>
        have hs : b₁.state.retreated = false := h.state ▸ hs
        exact .fallen h (.backedOut hs hr hh)
  · exact .pure fun _ h => .stays h

/-- A battle that stays is left at most once. -/
theorem wipeCheck.course {K : Deed → Prop} (hk : K .fallen) :
    Course cfg K Stays (wipeCheck cfg) fun _ => Anyhow := by
  refine .of_eq fun b hs => (wipeCheck.falls cfg hs).spec.of_never.mono_value fun _ b' h => ?_
  cases h with
  | stays h => exact ⟨h.moves, trivial⟩
  | fallen h hd => exact ⟨h.moves.tail (.deed hk hd), trivial⟩

end Play
end BattlePilot
