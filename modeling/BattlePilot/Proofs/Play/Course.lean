import BattlePilot.Proofs.Play.Deed

/-! Courses of deeds. Started in a state under `P`, a `Course` does deeds in `K` only, and either
gives a value in a state under `Q` or ends the battle by what a look for its end has found. -/

namespace BattlePilot.Play
open Battle Relation

def Stays (s : BattleState) : Prop := s.retreated = false

def Anyhow (_ : BattleState) : Prop := True

def Course (cfg : Settings) (K : Deed → Prop) (P : BattleState → Prop) (m : Play α)
    (Q : α → BattleState → Prop) : Prop :=
  ∀ b₀, Spec (fun b => Moves cfg K b₀ b ∧ P b.state) m
    (fun a b => Moves cfg K b₀ b ∧ Q a b.state) (Halted cfg K b₀)

variable {cfg : Settings} {K K' : Deed → Prop} {P P' : BattleState → Prop}
variable {R : α → BattleState → Prop} {Q Q' : β → BattleState → Prop}

namespace Course

theorem pure {a : β} (h : ∀ s, P s → Q a s) : Course cfg K P (Pure.pure a : Play β) Q :=
  fun _ => .pure fun _ hb => ⟨hb.1, h _ hb.2⟩

theorem bind {m : Play α} {f : α → Play β} (hm : Course cfg K P m R)
    (hf : ∀ a, Course cfg K (R a) (f a) Q) : Course cfg K P (m >>= f) Q :=
  fun b₀ => (hm b₀).bind fun a => hf a b₀

theorem discard {m : Play α} {Q : Unit → BattleState → Prop}
    (hm : Course cfg K P m fun _ => Q ()) : Course cfg K P (Functor.discard m) Q :=
  fun b₀ => (hm b₀).discard

theorem mono {m : Play β} (H : Course cfg K P m Q) (hP : ∀ s, P' s → P s)
    (hQ : ∀ a s, Q a s → Q' a s) : Course cfg K P' m Q' :=
  fun b₀ => (H b₀).mono (fun _ h => ⟨h.1, hP _ h.2⟩) (fun _ _ h => ⟨h.1, hQ _ _ h.2⟩)
    fun _ _ h => h

theorem mono_start {m : Play β} (H : Course cfg K P m Q) (hP : ∀ s, P' s → P s) :
    Course cfg K P' m Q :=
  H.mono hP fun _ _ h => h

theorem of_anyhow {m : Play β} (H : Course cfg K Anyhow m Q) : Course cfg K P m Q :=
  H.mono_start fun _ _ => trivial

theorem mono_value {m : Play β} (H : Course cfg K P m Q) (hQ : ∀ a s, Q a s → Q' a s) :
    Course cfg K P m Q' :=
  H.mono (fun _ h => h) hQ

theorem forget {m : Play β} (H : Course cfg K P m Q) : Course cfg K P m fun _ => Anyhow :=
  H.mono_value fun _ _ _ => trivial

/-- What a course does from each battle alone, it does in a longer row of deeds. -/
theorem of_eq {m : Play β}
    (h : ∀ b, P b.state → Spec (· = b) m (fun a b' => Moves cfg K b b' ∧ Q a b'.state)
      (Halted cfg K b)) : Course cfg K P m Q := by
  refine fun b₀ => .of_eq fun b ⟨hb, hp⟩ => ?_
  exact (h b hp).mono_result (fun _ _ h => ⟨hb.trans h.1, h.2⟩) fun _ _ h => hb.trans_halted h

theorem alone {m : Play β} (H : Course cfg K P m Q) (b : Battle) (hp : P b.state) :
    Spec (· = b) m (fun a b' => Moves cfg K b b' ∧ Q a b'.state) (Halted cfg K b) := by
  refine (H b).mono_start fun b' h => ?_
  subst h
  exact ⟨.refl, hp⟩

theorem of_state {m : Play β} (h : ∀ s, P s → Course cfg K (· = s) m Q) : Course cfg K P m Q :=
  .of_eq fun b hp => (h b.state hp).alone b rfl

theorem of_turns {m : Play β} {Q : Nat → β → BattleState → Prop}
    (h : ∀ n, Course cfg K (·.currentTurn = n) m (Q n)) : Course cfg K Anyhow m fun _ => Anyhow :=
  .of_state fun s _ => .forget (.mono_start (h s.currentTurn) fun _ hs => hs ▸ rfl)

theorem weaken {m : Play β} (hK : ∀ d, K d → K' d) (H : Course cfg K P m Q) :
    Course cfg K' P m Q :=
  .of_eq fun b hp => (H.alone b hp).mono_result (fun _ _ h => ⟨h.1.mono hK, h.2⟩)
    fun _ _ h => h.mono hK

/-- What no deed of a course changes stays true along it. -/
theorem frame {S : BattleState → Prop} {m : Play β} (H : Course cfg K P m Q)
    (hS : ∀ d b b', K d → Does cfg d b b' → S b.state → S b'.state) :
    Course cfg K (fun s => P s ∧ S s) m fun a s => Q a s ∧ S s :=
  .of_eq fun b ⟨hp, hs⟩ =>
    (H.alone b hp).mono_value fun _ _ h => ⟨h.1, h.2, h.1.keeps_state hS hs⟩

theorem quiet {m : Play β} (hm : Quiet cfg.Clicks m) : Course cfg K P m fun _ => P := by
  refine .of_eq fun b hp => (Within.alone hm b).mono_value fun _ b' h => ?_
  exact ⟨Asides.moves h, by rwa [Asides.state h]⟩

theorem get_bind {f : Battle → Play β} (hf : ∀ b, P b.state → Course cfg K (· = b.state) (f b) Q) :
    Course cfg K P (get >>= f) Q :=
  .of_eq fun b hp => .get_bind fun _ h => h ▸ (hf b hp).alone b rfl

theorem turn_bind {f : Nat → Play β}
    (hf : ∀ n, Course cfg K (fun s => s.currentTurn = n ∧ P s) (f n) Q) :
    Course cfg K P (currentTurn >>= f) Q :=
  .of_eq fun b hp => .turn_bind fun _ h => h ▸ (hf _).alone b ⟨rfl, hp⟩

theorem onlyIf {condition : Bool} {m : Play Bool} {Q : Bool → BattleState → Prop}
    (hm : Course cfg K P m Q) (hP : ∀ s, P s → Q false s) :
    Course cfg K P (onlyIf condition m) Q := by
  unfold Play.onlyIf
  split
  · exact hm
  · exact .pure hP

theorem deed {m : Play β} (hk : K d)
    (h : ∀ b, P b.state → Spec (· = b) m (fun a b' => Does cfg d b b' ∧ Q a b'.state)
      fun _ _ => False) : Course cfg K P m Q := by
  refine .of_eq fun b hp => (h b hp).of_never.mono_value fun _ b' ⟨hd, hq⟩ => ⟨?_, hq⟩
  exact .single (.deed hk hd)

theorem modify {f : Battle → Battle} {Q : Unit → BattleState → Prop} (hk : K d)
    (h : ∀ b, P b.state → Does cfg d b (f b) ∧ Q () (f b).state) :
    Course cfg K P (modify f : Play Unit) Q :=
  .deed hk fun b hp => .modify fun _ hb => hb ▸ h b hp

end Course
end BattlePilot.Play
