import BattlePilot.Proofs.Play.Within

/-! Properties that a course keeps wherever it stops. A property that is `Steady` for some names
stays as it is while only these are looked for and clicked, whatever is noted meanwhile and whatever
the pilot comes to know of the battle. -/

namespace BattlePilot

/-- The name that is looked for, or the label of a click. -/
def ScreenOp.name? : ScreenOp → Option String
  | find name | confirm name | findAll name | waitVanish name _ | hide name => some name
  | input i => i.label?
  | sleep _ => none

/-- Only names in `N` are looked for and clicked. -/
def ScreenOp.Concerns (N : String → Prop) (op : ScreenOp) : Prop :=
  ∀ name, op.name? = some name → N name

variable {N : String → Prop} {P : Battle → Prop}

theorem ScreenOp.concerns_of_none {op : ScreenOp} (h : op.name? = none) : op.Concerns N := by
  intro name hname
  rw [h] at hname
  cases hname

theorem ScreenOp.concerns_of_some {op : ScreenOp} (h : op.name? = some name) (hN : N name) :
    op.Concerns N := by
  intro name' hname
  rw [h] at hname
  cases hname
  exact hN

theorem ScreenOp.Presses.concerns {op : ScreenOp} (h : op.Presses name) (hN : N name) :
    op.Concerns N := by
  cases op with
  | find n => exact concerns_of_some rfl (h ▸ hN)
  | input i =>
    cases i with
    | click label p => exact concerns_of_some rfl (h ▸ hN)
    | _ => cases h
  | sleep => exact concerns_of_none rfl
  | _ => cases h

namespace Battle

/-- A property that asking for names in `N` keeps, and noting anything but the end of a turn, and
moving the anchor to where the attack button was just found. What the pilot knows of the battle does
not matter to it, apart from the turn. -/
structure Steady (N : String → Prop) (P : Battle → Prop) : Prop where
  asked : ∀ {b b'}, Ask (ScreenOp.Concerns N) b b' → P b → P b'
  noted : ∀ {b e}, (∀ turn, e ≠ .turnEnded turn) → P b → P (b.noted e)
  aimed : ∀ {b clock p},
    b.journal.head? = some (.call clock (.find "attack") (.position (some p))) →
      P b → P { b with anchor := p }
  kept : ∀ {b b'}, b'.screen = b.screen → b'.journal = b.journal → b'.anchor = b.anchor →
    b'.state.currentTurn = b.state.currentTurn → P b → P b'

/-- A steady property to which counting turns does not matter either. -/
structure Timeless (N : String → Prop) (P : Battle → Prop) : Prop extends Steady N P where
  counted : ∀ {b turn}, P b → P (b.noted (.turnEnded turn))
  moved : ∀ {b} s, P b → P { b with state := s }

/-- What some kind of operations tells is timeless for the names that these are not about. -/
theorem Timeless.of_entries {tells : Entry → Option β} (hevent : ∀ e, tells (.event e) = none)
    (hcall : ∀ clock op answer, op.Concerns N → tells (.call clock op answer) = none)
    (told : List β) : Timeless N (·.journal.reverse.filterMap tells = told) where
  asked h hb := by
    cases h with
    | @mk op answer s b hop hs => simpa [answered, hcall s.now op answer hop] using hb
  noted _ hb := by simpa [Battle.noted, hevent] using hb
  aimed _ hb := hb
  kept _ hj _ _ hb := by rwa [hj]
  counted hb := by simpa [Battle.noted, hevent] using hb
  moved _ hb := hb

end Battle

namespace Play
open Battle

/-- A course that keeps a property, whatever comes of it. -/
abbrev Keeps (P : Battle → Prop) (m : Play α) : Prop := Triple P m (fun _ => P) fun _ => P

namespace Keeps

theorem holds {m : Play α} (hm : Keeps P m) (hb : P b) : P (m.run.run b).2 := by
  rcases hrun : m.run.run b with ⟨halt | a, b'⟩
  · exact hm.of_error hb hrun
  · exact hm.of_ok hb hrun

theorem pure (a : α) : Keeps P (Pure.pure a : Play α) := Triple.pure fun _ h => h

theorem bind {m : Play α} {f : α → Play β} (hm : Keeps P m) (hf : ∀ a, Keeps P (f a)) :
    Keeps P (m >>= f) :=
  Triple.bind hm hf

theorem bind_option {m : Play (Option α)} {f : Option α → Play β} (hm : Keeps P m)
    (hsome : ∀ a, Keeps P (f (some a))) (hnone : Keeps P (f none)) : Keeps P (m >>= f) := by
  apply bind hm
  intro found
  cases found with
  | some a => exact hsome a
  | none => exact hnone

theorem discard {m : Play α} (hm : Keeps P m) : Keeps P (Functor.discard m) :=
  Triple.discard hm

theorem get_bind {f : Battle → Play β} (hf : ∀ b, Keeps P (f b)) : Keeps P (get >>= f) :=
  Triple.get_bind fun b hb => (hf b).mono_start fun _ h => h ▸ hb

theorem turn_bind {f : Nat → Play β} (hf : ∀ n, Keeps P (f n)) : Keeps P (currentTurn >>= f) :=
  Triple.turn_bind fun b hb => (hf b.state.currentTurn).mono_start fun _ h => h ▸ hb

theorem halt (h : Halt) : Keeps P (throw h : Play α) := Triple.halt fun _ hb => hb

theorem either {first second : Play Bool} (hfirst : Keeps P first) (hsecond : Keeps P second) :
    Keeps P (either first second) := by
  apply bind hfirst
  intro found
  split
  · exact pure _
  · exact hsecond

theorem onlyIf {condition : Bool} {m : Play Bool} (hm : Keeps P m) :
    Keeps P (onlyIf condition m) := by
  cases condition with
  | true => exact hm
  | false => exact pure _

end Keeps

theorem Within.keptBy {m : Play α} (hm : Within (Ask (ScreenOp.Concerns N)) m)
    (hP : Steady N P) : Keeps P m :=
  (hm.keeps fun h hb => hP.asked h hb).mono_halt fun _ _ h => h.2

theorem record.keeps (hP : Steady N P) {e : Event} (he : ∀ turn, e ≠ .turnEnded turn) :
    Keeps P (record e) :=
  .modify fun _ hb => hP.noted he hb

theorem setback.keeps (hP : Steady N P) (s : Setback) : Keeps P (setback s) :=
  .turn_bind fun _ => record.keeps hP nofun

theorem modifyState.keeps (hP : Steady N P) {f : BattleState → BattleState}
    (hf : ∀ s, (f s).currentTurn = s.currentTurn) : Keeps P (modifyState f) :=
  .modify fun b hb => hP.kept (b := b) rfl rfl rfl (hf b.state) hb

end Play
end BattlePilot
