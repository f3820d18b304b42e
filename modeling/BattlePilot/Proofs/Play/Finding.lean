import BattlePilot.Proofs.Play.QuietCourses
import BattlePilot.Proofs.Screen.Settle

/-! Looking for the end of a battle. `Battle.Finds` says what each outcome of the look rests on:
the time used up, the battle left, or screens that were asked for in a fixed order, the last of
them seen and those before it not. -/

namespace BattlePilot

namespace Battle

/-- The battle has time left and was not left. -/
structure Open (cfg : Settings) (b : Battle) : Prop where
  inTime : Play.timeExceeded cfg b = false
  stays : b.state.retreated = false

/-- The newest entries are these answers, the newest first, and they hold of the screen. -/
structure Saw (answers : List (String × Bool)) (b : Battle) : Prop where
  entries : ∃ earlier, b.journal =
    answers.map (fun a => .call b.screen.now (.confirm a.1) (.truth a.2)) ++ earlier
  shown : ∀ a ∈ answers, b.screen.isVisible a.1 = a.2
  settled : answers ≠ [] → b.screen.Settled

/-- What the look for an end has found, right after it. -/
inductive Finds (cfg : Settings) : Option Outcome → Battle → Prop
  | timeExceeded (h : Play.timeExceeded cfg b = true) : Finds cfg (some .timeExceeded) b
  | left (ht : Play.timeExceeded cfg b = false) (hl : b.state.retreated = true) :
    Finds cfg (some .noLoot) b
  | noLoot (ho : b.Open cfg) (hs : b.Saw [("no_loot", true)]) : Finds cfg (some .noLoot) b
  | battleConcluded (ho : b.Open cfg)
      (hs : b.Saw [("battle_concluded", true), ("no_loot", false)]) :
    Finds cfg (some .battleConcluded) b
  | expGained (ho : b.Open cfg)
      (hs : b.Saw [("exp_gained", true), ("battle_concluded", false), ("no_loot", false)]) :
    Finds cfg (some .expGained) b
  | lootCollected (ho : b.Open cfg)
      (hs : b.Saw [("loot_collected", true), ("exp_gained", false), ("battle_concluded", false),
        ("no_loot", false)]) :
    Finds cfg (some .lootCollected) b
  | nothing (ho : b.Open cfg)
      (hs : b.Saw [("loot_collected", false), ("exp_gained", false), ("battle_concluded", false),
        ("no_loot", false)]) :
    Finds cfg none b

theorem Finds.open (h : Finds cfg none b) : b.Open cfg := by
  cases h with
  | nothing ho _ => exact ho

/-- The battle once an outcome is settled; the first outcome is kept. -/
def concluded (b : Battle) (outcome : Outcome) : Battle :=
  { b with state := { b.state with outcome := b.state.outcome.or (some outcome) } }

/-- The outcome was found, and nothing came after that but the reload that dismisses a battle
which concluded of itself. -/
inductive Verdict (cfg : Settings) : Outcome → Battle → Prop
  | found (hf : Finds cfg (some outcome) b) (ho : outcome ≠ .battleConcluded) :
    Verdict cfg outcome b
  | dismissed (hf : Finds cfg (some .battleConcluded) b)
      (hr : Asks (ScreenOp.Presses "reload") b b') :
    Verdict cfg .battleConcluded b'

end Battle

namespace Play
open Battle Relation

variable (cfg : Settings)

theorem sees.saw (name : String) (answers : List (String × Bool)) :
    Spec (fun b => b.Open cfg ∧ b.Saw answers) (sees name)
      (fun seen b => b.Open cfg ∧ b.Saw ((name, seen) :: answers)) fun _ _ => False := by
  refine ⟨fun b ⟨ho, hs⟩ => ?_⟩
  rw [sees_run]
  refine ⟨⟨ho.inTime, ho.stays⟩, ?_, ?_, fun _ => b.screen.settle_settled⟩
  · obtain ⟨earlier, h⟩ := hs.entries
    exact ⟨earlier, congrArg (_ :: ·) h⟩
  · rw [List.forall_mem_cons]
    refine ⟨rfl, fun a ha => ?_⟩
    -- an earlier look has settled the screen, and this one leaves it so
    have hset := (hs.settled (List.ne_nil_of_mem ha)).settle_eq
    change b.screen.settle.isVisible a.1 = a.2
    rw [hset]
    exact hs.shown a ha

theorem classify.spec : Spec (fun _ => True) (classify cfg) (Finds cfg) fun _ _ => False := by
  refine .get_bind fun b _ => ?_
  split
  · next h => exact .pure fun _ hb => hb ▸ .timeExceeded h
  · next ht =>
    have ht := eq_false_of_ne_true ht
    split
    · next hl => exact .pure fun _ hb => hb ▸ .left ht hl
    · next hl =>
      have start : b.Open cfg ∧ b.Saw [] :=
        ⟨⟨ht, eq_false_of_ne_true hl⟩, ⟨b.journal, rfl⟩, nofun, fun h => absurd rfl h⟩
      refine .bind ((sees.saw cfg "no_loot" []).mono_start fun _ hb => hb ▸ start) fun seen => ?_
      cases seen with
      | true => exact .pure fun _ h => .noLoot h.1 h.2
      | false =>
        refine .bind (sees.saw cfg "battle_concluded" _) fun seen => ?_
        cases seen with
        | true => exact .pure fun _ h => .battleConcluded h.1 h.2
        | false =>
          refine .bind (sees.saw cfg "exp_gained" _) fun seen => ?_
          cases seen with
          | true => exact .pure fun _ h => .expGained h.1 h.2
          | false =>
            refine .bind (sees.saw cfg "loot_collected" _) fun seen => ?_
            cases seen with
            | true => exact .pure fun _ h => .lootCollected h.1 h.2
            | false => exact .pure fun _ h => .nothing h.1 h.2

theorem classify.asks {A : ScreenOp → Prop} (h : ∀ name, A (.confirm name)) :
    Within (Ask A) (classify cfg) := by
  refine .get_bind fun b => ?_
  split
  · exact .pure _
  split
  · exact .pure _
  refine .bind (sees.asks (h _)) fun seen => ?_
  split
  · exact .pure _
  refine .bind (sees.asks (h _)) fun seen => ?_
  split
  · exact .pure _
  refine .bind (sees.asks (h _)) fun seen => ?_
  split
  · exact .pure _
  refine .bind (sees.asks (h _)) fun seen => ?_
  split <;> exact .pure _

/-- Either nothing was found, or the battle ends by what was found; nothing is noted. -/
theorem check.spec {A : ScreenOp → Prop} (hc : ∀ name, A (.confirm name))
    (hr : ∀ op, op.Presses "reload" → A op) (b₀ : Battle) :
    Spec (Asks A b₀) (check cfg) (fun _ b => Asks A b₀ b ∧ Finds cfg none b)
      fun outcome b => ∃ b₁, Asks A b₀ b₁ ∧ Verdict cfg outcome b₁ ∧ b = b₁.concluded outcome := by
  have conclude_spec (outcome : Outcome) :
      Spec (fun b => Asks A b₀ b ∧ Verdict cfg outcome b) (conclude outcome : Play Unit)
        (fun _ b => Asks A b₀ b ∧ Finds cfg none b) fun outcome b =>
          ∃ b₁, Asks A b₀ b₁ ∧ Verdict cfg outcome b₁ ∧ b = b₁.concluded outcome :=
    ⟨fun b h => ⟨b, h.1, h.2, rfl⟩⟩
  refine .bind (((classify.asks cfg hc).since b₀).and (classify.spec cfg)) fun found => ?_
  cases found with
  | none => exact .pure fun _ h => h
  | some outcome =>
    dsimp only
    split
    · next h =>
      subst h
      refine .bind ?_ fun _ => conclude_spec _
      refine .of_eq fun b ⟨hb, hf⟩ => ?_
      have hq : Within (Ask (ScreenOp.Presses "reload")) (press cfg "reload") :=
        .discard (findAndClick.asks cfg usualTries)
      refine (hq.alone b).mono_value fun _ b' h => ⟨?_, .dismissed hf h⟩
      exact hb.trans (ReflTransGen.mono (fun _ _ ha => ha.mono hr) _ _ h)
    · next h =>
      exact (conclude_spec outcome).mono_start fun _ hb => ⟨hb.1, .found hb.2 h⟩

end Play
end BattlePilot
