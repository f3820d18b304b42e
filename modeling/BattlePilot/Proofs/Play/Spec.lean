import BattlePilot.Battle.Play

/-! A logic for courses of play. A `Triple` speaks of all that a course may come to: it gives a
value, ends the battle, or is cut short because a number overflows or the rounds are used up. A
`Spec` leaves out the courses that are cut short: no report comes of them. -/

namespace BattlePilot.Play

theorem run_bind_ok {m : Play α} {f : α → Play β} {b b' : Battle} {c : β}
    (h : (m >>= f).run.run b = (.ok c, b')) :
    ∃ a b₁, m.run.run b = (.ok a, b₁) ∧ (f a).run.run b₁ = (.ok c, b') := by
  rw [ExceptT.run_bind, StateT.run_bind] at h
  match hm : m.run.run b with
  | (.ok a, b₁) =>
    rw [hm] at h
    exact ⟨a, b₁, rfl, h⟩
  | (.error _, b₁) =>
    rw [hm] at h
    cases h

/-- Courses come to the same if their first parts do, and then what follows where these lead. -/
theorem run_bind_congr {m m' : Play α} {f f' : α → Play β} {b : Battle}
    (hm : m'.run.run b = m.run.run b)
    (hf : ∀ a b₁, m.run.run b = (.ok a, b₁) → (f' a).run.run b₁ = (f a).run.run b₁) :
    (m' >>= f').run.run b = (m >>= f).run.run b := by
  rw [ExceptT.run_bind, StateT.run_bind, hm, ExceptT.run_bind, StateT.run_bind]
  match h : m.run.run b with
  | (.ok a, b₁) => exact hf a b₁ h
  | (.error _, _) => rfl

/-- Started under `P`, the course `m` gives a value under `Q` or halts under `E`. -/
structure Triple (P : Battle → Prop) (m : Play α) (Q : α → Battle → Prop)
    (E : Halt → Battle → Prop) : Prop where
  run : ∀ b, P b → match m.run.run b with
    | (.ok a, b') => Q a b'
    | (.error halt, b') => E halt b'

/-- Only the end of the battle counts as a halt. -/
def EndingUnder (E : Outcome → Battle → Prop) : Halt → Battle → Prop
  | .ended outcome, b => E outcome b
  | .overflow, _ | .unfinished, _ => True

/-- Started under `P`, the course `m` gives a value under `Q` or ends the battle under `E`. -/
abbrev Spec (P : Battle → Prop) (m : Play α) (Q : α → Battle → Prop)
    (E : Outcome → Battle → Prop) : Prop :=
  Triple P m Q (EndingUnder E)

variable {P P' : Battle → Prop} {R : α → Battle → Prop} {Q Q' : β → Battle → Prop}

namespace Triple

variable {E E' : Halt → Battle → Prop}

theorem of_ok {m : Play β} {b b' : Battle} (H : Triple P m Q E) (hb : P b)
    (h : m.run.run b = (.ok a, b')) : Q a b' := by
  have := H.run b hb
  rwa [h] at this

theorem of_error {m : Play β} {b b' : Battle} (H : Triple P m Q E) (hb : P b)
    (h : m.run.run b = (.error halt, b')) : E halt b' := by
  have := H.run b hb
  rwa [h] at this

/-- What a triple says of the values and of the halts alike, it says of the course. -/
theorem result {m : Play β} {b : Battle} {R : Except Halt β × Battle → Prop}
    (H : Triple (· = b) m (fun a b' => R (.ok a, b')) fun halt b' => R (.error halt, b')) :
    R (m.run.run b) := by
  have h := H.run b rfl
  match m.run.run b, h with
  | (.ok _, _), h => exact h
  | (.error _, _), h => exact h

theorem pure {a : β} (h : ∀ b, P b → Q a b) : Triple P (Pure.pure a : Play β) Q E := ⟨h⟩

theorem halt {halt : Halt} (h : ∀ b, P b → E halt b) : Triple P (throw halt : Play β) Q E := ⟨h⟩

theorem bind {m : Play α} {f : α → Play β} (hm : Triple P m R E)
    (hf : ∀ a, Triple (R a) (f a) Q E) : Triple P (m >>= f) Q E := by
  refine ⟨fun b hb => ?_⟩
  have h := hm.run b hb
  rw [ExceptT.run_bind, StateT.run_bind]
  match m.run.run b, h with
  | (.ok a, b'), h => exact (hf a).run b' h
  | (.error _, _), h => exact h

theorem conseq {m : Play β} (H : Triple P m Q E) (hP : ∀ b, P' b → P b)
    (hQ : ∀ a b, Q a b → Q' a b) (hE : ∀ halt b, E halt b → E' halt b) : Triple P' m Q' E' := by
  refine ⟨fun b hb => ?_⟩
  have h := H.run b (hP b hb)
  match m.run.run b, h with
  | (.ok a, b'), h => exact hQ a b' h
  | (.error halt, b'), h => exact hE halt b' h

theorem mono_start {m : Play β} (H : Triple P m Q E) (hP : ∀ b, P' b → P b) : Triple P' m Q E :=
  H.conseq hP (fun _ _ h => h) fun _ _ h => h

theorem mono_value {m : Play β} (H : Triple P m Q E) (hQ : ∀ a b, Q a b → Q' a b) :
    Triple P m Q' E :=
  H.conseq (fun _ h => h) hQ fun _ _ h => h

theorem mono_halt {m : Play β} (H : Triple P m Q E) (hE : ∀ halt b, E halt b → E' halt b) :
    Triple P m Q E' :=
  H.conseq (fun _ h => h) (fun _ _ h => h) hE

/-- What two triples say of one course, it does together. -/
theorem both {m : Play β} (H : Triple P m Q E) (H' : Triple P' m Q' E') :
    Triple (fun b => P b ∧ P' b) m (fun a b => Q a b ∧ Q' a b)
      fun halt b => E halt b ∧ E' halt b := by
  refine ⟨fun b hb => ?_⟩
  have h := H.run b hb.1
  have h' := H'.run b hb.2
  match m.run.run b, h, h' with
  | (.ok _, _), h, h' => exact ⟨h, h'⟩
  | (.error _, _), h, h' => exact ⟨h, h'⟩

/-- What a course gives in any case, it gives under `P` too. -/
theorem and {m : Play β} (H : Triple P m Q E) (H' : Triple (fun _ => True) m Q' E') :
    Triple P m (fun a b => Q a b ∧ Q' a b) E :=
  (H.both H').conseq (fun _ h => ⟨h, trivial⟩) (fun _ _ h => h) fun _ _ h => h.1

theorem anyhow {m : Play β} : Triple P m (fun _ _ => True) fun _ _ => True := by
  refine ⟨fun b _ => ?_⟩
  match m.run.run b with
  | (.ok _, _) | (.error _, _) => trivial

/-- What comes before does not matter. -/
theorem anyhow_bind {m : Play α} {f : α → Play β}
    (hf : ∀ a, Triple (fun _ => True) (f a) Q fun _ _ => True) :
    Triple P (m >>= f) Q fun _ _ => True :=
  bind anyhow hf

theorem of_eq {m : Play β} (h : ∀ b, P b → Triple (· = b) m Q E) : Triple P m Q E :=
  ⟨fun b hb => (h b hb).run b rfl⟩

/-- The value and the battle are those that the course gives. -/
theorem with_run {m : Play β} {b₀ : Battle} (H : Triple (· = b₀) m Q E) :
    Triple (· = b₀) m (fun a b => Q a b ∧ m.run.run b₀ = (.ok a, b)) E := by
  refine ⟨fun b hb => ?_⟩
  subst hb
  have h := H.run b rfl
  match hr : m.run.run b, h with
  | (.ok a, b'), h => exact ⟨h, rfl⟩
  | (.error _, _), h => exact h

theorem of_fact {fact : Prop} {m : Play β} (h : fact → Triple P m Q E) :
    Triple (fun b => fact ∧ P b) m Q E :=
  ⟨fun b hb => (h hb.1).run b hb.2⟩

theorem discard {m : Play α} {Q : Unit → Battle → Prop} (hm : Triple P m (fun _ => Q ()) E) :
    Triple P (Functor.discard m) Q E :=
  bind (f := fun _ => Pure.pure ()) hm fun _ => pure fun _ h => h

/-- Reading the battle: the course that follows knows what it is. -/
theorem get_bind {f : Battle → Play β} (hf : ∀ b, P b → Triple (· = b) (f b) Q E) :
    Triple P (get >>= f) Q E :=
  ⟨fun b hb => (hf b hb).run b rfl⟩

theorem turn_bind {f : Nat → Play β}
    (hf : ∀ b, P b → Triple (· = b) (f b.state.currentTurn) Q E) :
    Triple P (currentTurn >>= f) Q E :=
  ⟨fun b hb => (hf b hb).run b rfl⟩

/-- A course that is asked for its answer only under a condition: a positive answer tells that
the condition holds. -/
theorem onlyIf {Q : Bool → Battle → Prop} {condition : Bool} {m : Play Bool}
    (hm : Triple P m Q E) (hP : ∀ b, P b → Q false b) :
    Triple P (onlyIf condition m) (fun a b => (a = true → condition = true) ∧ Q a b) E := by
  unfold Play.onlyIf
  split
  · next hc => exact hm.mono_value fun _ _ h => ⟨fun _ => hc, h⟩
  · exact .pure fun b h => ⟨nofun, hP b h⟩

theorem modify {f : Battle → Battle} {Q : Unit → Battle → Prop} (h : ∀ b, P b → Q () (f b)) :
    Triple P (modify f : Play Unit) Q E := ⟨h⟩

/-- A course that only an overflow cuts short does not end the battle. -/
theorem spec {F : Battle → Prop} {E : Outcome → Battle → Prop} {m : Play β}
    (H : Triple P m Q fun halt b => halt = .overflow ∧ F b) : Spec P m Q E :=
  H.mono_halt fun _ _ h => h.1 ▸ trivial

end Triple

variable {E E' : Outcome → Battle → Prop}

namespace Spec

theorem of_ended {m : Play β} {b b' : Battle} (H : Spec P m Q E) (hb : P b)
    (h : m.run.run b = (.error (.ended outcome), b')) : E outcome b' :=
  Triple.of_error H hb h

theorem mono {m : Play β} (H : Spec P m Q E) (hP : ∀ b, P' b → P b)
    (hQ : ∀ a b, Q a b → Q' a b) (hE : ∀ o b, E o b → E' o b) : Spec P' m Q' E' := by
  refine H.conseq hP hQ fun halt b h => ?_
  cases halt with
  | ended outcome => exact hE outcome b h
  | overflow | unfinished => trivial

theorem mono_result {m : Play β} (H : Spec P m Q E) (hQ : ∀ a b, Q a b → Q' a b)
    (hE : ∀ o b, E o b → E' o b) : Spec P m Q' E' :=
  H.mono (fun _ h => h) hQ hE

theorem mono_ended {m : Play β} (H : Spec P m Q E) (hE : ∀ o b, E o b → E' o b) :
    Spec P m Q E' :=
  H.mono_result (fun _ _ h => h) hE

theorem both {m : Play β} (H : Spec P m Q E) (H' : Spec P' m Q' E') :
    Spec (fun b => P b ∧ P' b) m (fun a b => Q a b ∧ Q' a b) fun o b => E o b ∧ E' o b := by
  refine (Triple.both H H').mono_halt fun halt b h => ?_
  cases halt with
  | ended outcome => exact h
  | overflow | unfinished => trivial

theorem of_never {m : Play β} (H : Spec P m Q fun _ _ => False) : Spec P m Q E :=
  H.mono_ended fun _ _ => False.elim

theorem with_run {m : Play β} {b₀ : Battle} (H : Spec (· = b₀) m Q E) :
    Spec (· = b₀) m (fun a b => Q a b ∧ m.run.run b₀ = (.ok a, b)) E :=
  Triple.with_run H

theorem anyhow {m : Play β} : Spec P m (fun _ _ => True) fun _ _ => True := by
  refine Triple.anyhow.mono_halt fun halt b _ => ?_
  cases halt <;> trivial

theorem overflow : Spec P (throw .overflow : Play β) Q E := .halt fun _ _ => trivial

theorem unfinished : Spec P (throw .unfinished : Play β) Q E := .halt fun _ _ => trivial

end Spec
end BattlePilot.Play
