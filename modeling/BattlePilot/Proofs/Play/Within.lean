import BattlePilot.Battle.Dispatch
import BattlePilot.Proofs.Play.Spec
import Mathlib.Logic.Relation

/-! Courses that move within a relation. `Within r m` says that `m` takes the battle along steps of
`r` and does not end it, though a number may overflow on the way. The least such relation is
`Battle.Ask`: the screen is asked something, and nothing else happens. -/

namespace BattlePilot

namespace Battle

def answered (b : Battle) (op : ScreenOp) (answer : ScreenAnswer) (screen : Screen) : Battle :=
  { b with screen, journal := .call screen.now op answer :: b.journal }

def noted (b : Battle) (e : Event) : Battle :=
  { b with journal := .event e :: b.journal }

/-- The screen is asked one of the operations in `A`. -/
inductive Ask (A : ScreenOp → Prop) : Battle → Battle → Prop
  | mk (hop : A op) (h : b.screen.perform? op = some (answer, s)) : Ask A b (b.answered op answer s)

theorem Ask.mono (h : ∀ op, A op → A' op) : Ask A b b' → Ask A' b b'
  | .mk hop hs => .mk (h _ hop) hs

theorem Ask.state (h : Ask A b b') : b'.state = b.state := by
  cases h
  rfl

theorem Ask.events (h : Ask A b b') : b'.journal.events = b.journal.events := by
  cases h
  exact Journal.events_call ..

/-- The screen is asked things, and nothing is noted. -/
abbrev Asks (A : ScreenOp → Prop) : Battle → Battle → Prop :=
  Relation.ReflTransGen (Ask A)

theorem Asks.state (h : Asks A b b') : b'.state = b.state := by
  induction h with
  | refl => rfl
  | tail _ h ih => exact h.state.trans ih

theorem Asks.events (h : Asks A b b') : b'.journal.events = b.journal.events := by
  induction h with
  | refl => rfl
  | tail _ h ih => exact h.events.trans ih

end Battle

/-- What it takes to look for an element with patience. -/
def ScreenOp.Seeks (name : String) : ScreenOp → Prop
  | .find n => n = name
  | .sleep _ => True
  | _ => False

/-- What it takes to look for an element with patience and to click it. -/
def ScreenOp.Presses (name : String) : ScreenOp → Prop
  | .find n => n = name
  | .input (.click label _) => label = name
  | .sleep _ => True
  | _ => False

theorem ScreenOp.Seeks.presses {op : ScreenOp} (h : op.Seeks name) : op.Presses name := by
  cases op with
  | find | sleep => exact h
  | _ => cases h

namespace Play
open Battle Relation

theorem Spec.of_refl {r : Battle → Battle → Prop} {m : Play α} {Q : α → Battle → Prop}
    {E : Outcome → Battle → Prop} (H : Spec (ReflTransGen r b) m Q E) : Spec (· = b) m Q E :=
  H.mono_start fun _ h => h ▸ .refl

/-- A course along steps of `r`, which does not end the battle. Only an overflow cuts it short. -/
def Within (r : Battle → Battle → Prop) (m : Play α) : Prop :=
  ∀ b₀, Triple (ReflTransGen r b₀) m (fun _ => ReflTransGen r b₀)
    fun halt b => halt = .overflow ∧ ReflTransGen r b₀ b

variable {r r' : Battle → Battle → Prop} {E : Outcome → Battle → Prop}

namespace Within

theorem pure (a : α) : Within r (Pure.pure a : Play α) := fun _ => .pure fun _ h => h

theorem bind {m : Play α} {f : α → Play β} (hm : Within r m) (hf : ∀ a, Within r (f a)) :
    Within r (m >>= f) := fun b₀ => (hm b₀).bind fun a => hf a b₀

theorem bind_option {m : Play (Option α)} {f : Option α → Play β} (hm : Within r m)
    (hsome : ∀ a, Within r (f (some a))) (hnone : Within r (f none)) : Within r (m >>= f) := by
  refine hm.bind fun found => ?_
  cases found with
  | some a => exact hsome a
  | none => exact hnone

theorem discard {m : Play α} (hm : Within r m) : Within r (Functor.discard m) :=
  fun b₀ => (hm b₀).discard

/-- A course is within `r` if it is so from each battle alone. -/
theorem of_eq {m : Play α} (h : ∀ b, Triple (· = b) m (fun _ => ReflTransGen r b)
    fun halt b' => halt = .overflow ∧ ReflTransGen r b b') : Within r m :=
  fun _ => .of_eq fun b hb =>
    (h b).conseq (fun _ h => h) (fun _ _ h => hb.trans h) fun _ _ h => ⟨h.1, hb.trans h.2⟩

theorem entire {m : Play α} (hm : Within r m) (b : Battle) :
    Triple (· = b) m (fun _ => ReflTransGen r b)
      fun halt b' => halt = .overflow ∧ ReflTransGen r b b' :=
  (hm b).mono_start fun _ h => h ▸ .refl

theorem since {m : Play α} (hm : Within r m) (b₀ : Battle) :
    Spec (ReflTransGen r b₀) m (fun _ => ReflTransGen r b₀) E :=
  (hm b₀).spec

theorem alone {m : Play α} (hm : Within r m) (b : Battle) :
    Spec (· = b) m (fun _ => ReflTransGen r b) E :=
  (hm.entire b).spec

/-- A course within a relation does not end the battle. -/
theorem spec {P : Battle → Prop} {m : Play α} (hm : Within r m) :
    Spec P m (fun _ _ => True) E :=
  .of_eq fun b _ => (hm.alone b).mono_value fun _ _ _ => trivial

/-- What every step keeps, the course keeps, whatever comes of it. -/
theorem keeps {P : Battle → Prop} {m : Play α} (hm : Within r m)
    (hr : ∀ {b b'}, r b b' → P b → P b') :
    Triple P m (fun _ => P) fun halt b => halt = .overflow ∧ P b := by
  have stays {b b' : Battle} (hb : P b) (h : ReflTransGen r b b') : P b' := by
    induction h with
    | refl => exact hb
    | tail _ hstep ih => exact hr hstep ih
  apply Triple.of_eq
  intro b hb
  apply (hm.entire b).conseq (fun _ h => h)
  · exact fun _ _ h => stays hb h
  · exact fun _ _ h => ⟨h.1, stays hb h.2⟩

theorem get_bind {f : Battle → Play α} (hf : ∀ b, Within r (f b)) : Within r (get >>= f) :=
  fun b₀ => .get_bind fun b hb => (hf b b₀).mono_start fun _ h => h ▸ hb

theorem overflow : Within r (throw .overflow : Play α) := fun _ => .halt fun _ h => ⟨rfl, h⟩

theorem step {f : Battle → Battle} (h : ∀ b, r b (f b)) : Within r (modify f : Play Unit) :=
  fun _ => .modify fun b hb => hb.tail (h b)

theorem mono {m : Play α} (hm : Within r m) (h : ∀ b b', r b b' → r' b b') : Within r' m :=
  .of_eq fun b => (hm.entire b).conseq (fun _ h => h) (fun _ _ hr => ReflTransGen.mono h _ _ hr)
    fun _ _ hr => ⟨hr.1, ReflTransGen.mono h _ _ hr.2⟩

theorem either {first second : Play Bool} (h₁ : Within r first) (h₂ : Within r second) :
    Within r (either first second) := by
  refine .bind h₁ fun found => ?_
  split
  · exact .pure _
  · exact h₂

theorem onlyIf {condition : Bool} {m : Play Bool} (hm : Within r m) :
    Within r (onlyIf condition m) := by
  unfold Play.onlyIf
  split
  · exact hm
  · exact .pure _

end Within

/-- Where a position beside another one is does not matter to the battle. -/
theorem beside.within (position : Point) (offset : Offset) :
    Within r (beside position offset) := by
  unfold beside
  split
  · exact .pure _
  · exact .overflow

/-! ### Asking the screen -/

theorem perform_run (op : ScreenOp) (b : Battle) :
    (perform op).run.run b = match b.screen.perform? op with
      | some (answer, screen) => (.ok answer, b.answered op answer screen)
      | none => (.error .overflow, b) := by
  have h {f : Battle → Play ScreenAnswer} : (get >>= f).run.run b = (f b).run.run b := rfl
  rw [perform, h]
  cases b.screen.perform? op <;> rfl

theorem look_run (name : String) (b : Battle) : (look name).run.run b =
    (.ok (b.screen.find name).1,
      b.answered (.find name) (.position (b.screen.find name).1) (b.screen.find name).2) := rfl

theorem sees_run (name : String) (b : Battle) : (sees name).run.run b =
    (.ok (b.screen.confirm name).1,
      b.answered (.confirm name) (.truth (b.screen.confirm name).1) (b.screen.confirm name).2) :=
  rfl

variable {A : ScreenOp → Prop}

theorem perform.spec (op : ScreenOp) (b : Battle) :
    Triple (· = b) (perform op) (fun answer b' => ∃ s, b.screen.perform? op = some (answer, s) ∧
      b' = b.answered op answer s) fun halt b' => halt = .overflow ∧ b' = b := by
  refine ⟨fun b' h => ?_⟩
  subst h
  rw [perform_run]
  cases hs : b'.screen.perform? op with
  | none => exact ⟨rfl, rfl⟩
  | some answered => exact ⟨answered.2, rfl, rfl⟩

theorem perform.asks {op : ScreenOp} (h : A op) : Within (Ask A) (perform op) := by
  refine .of_eq fun b => (perform.spec op b).conseq (fun _ h => h)
    (fun _ _ ⟨s, hs, hb⟩ => ?_) fun _ _ ⟨ho, hb⟩ => ⟨ho, hb ▸ .refl⟩
  rw [hb]
  exact .single (.mk h hs)

theorem look.asks {name : String} (h : A (.find name)) : Within (Ask A) (look name) := by
  refine .bind (perform.asks h) fun answer => ?_
  split <;> exact .pure _

theorem sees.asks {name : String} (h : A (.confirm name)) : Within (Ask A) (sees name) := by
  refine .bind (perform.asks h) fun answer => ?_
  split <;> exact .pure _

theorem lookAll.asks {name : String} (h : A (.findAll name)) : Within (Ask A) (lookAll name) := by
  refine .bind (perform.asks h) fun answer => ?_
  split <;> exact .pure _

theorem waitVanish.asks {name : String} {timeout : Span} (h : A (.waitVanish name timeout)) :
    Within (Ask A) (waitVanish name timeout) := by
  refine .bind (perform.asks h) fun answer => ?_
  split <;> exact .pure _

theorem send.asks {input : Input} (h : A (.input input)) : Within (Ask A) (send input) :=
  .discard (perform.asks h)

theorem sleep.asks {d : Span} (h : A (.sleep d)) : Within (Ask A) (sleep d) :=
  .discard (perform.asks h)

theorem wait.asks {d : Span} (h : A (.sleep d)) : Within (Ask A) (wait d) := by
  unfold wait
  split
  · exact .pure _
  · exact sleep.asks h

/-- Asks, and asks again up to `more` times after a pause, until something is seen. -/
def askWithin (ask : Play α) (seen : α → Bool) (pause : Span) : (more : Nat) → Play α
  | 0 => ask
  | more + 1 => do
    let answer ← ask
    if seen answer then return answer
    else
      sleep pause
      askWithin ask seen pause more

theorem askWithin.asks {ask : Play α} {seen : α → Bool} {pause : Span} (ha : Within (Ask A) ask)
    (hs : A (.sleep pause)) : ∀ more, Within (Ask A) (askWithin ask seen pause more)
  | 0 => ha
  | more + 1 => by
    refine .bind ha fun answer => ?_
    split
    · exact .pure _
    · exact .bind (sleep.asks hs) fun _ => askWithin.asks ha hs more

section

variable (cfg : Settings)

theorem findWithin_eq (name : String) (more : Nat) : findWithin cfg name more =
    askWithin (look name) (·.isSome) cfg.retry.pollInterval more := by
  induction more with
  | zero => rfl
  | succ more ih =>
    rw [findWithin, askWithin, ih]
    congr 1
    funext found
    cases found <;> rfl

theorem confirmWithin_eq (name : String) (more : Nat) : confirmWithin cfg name more =
    askWithin (sees name) id cfg.retry.pollInterval more := by
  induction more with
  | zero => rfl
  | succ more ih =>
    rw [confirmWithin, askWithin, ih]
    congr 1
    funext seen
    cases seen <;> rfl

theorem findWithin.asks {name : String} (hf : A (.find name)) (hs : ∀ d, A (.sleep d))
    (more : Nat) : Within (Ask A) (findWithin cfg name more) := by
  rw [findWithin_eq]
  exact askWithin.asks (look.asks hf) (hs _) more

theorem confirmWithin.asks {name : String} (hc : A (.confirm name)) (hs : ∀ d, A (.sleep d))
    (more : Nat) : Within (Ask A) (confirmWithin cfg name more) := by
  rw [confirmWithin_eq]
  exact askWithin.asks (sees.asks hc) (hs _) more

theorem find.asks {name : String} (hf : A (.find name)) (hs : ∀ d, A (.sleep d)) (tries : Nat) :
    Within (Ask A) (find cfg name tries) :=
  findWithin.asks cfg hf hs _

theorem confirm.asks {name : String} (hc : A (.confirm name)) (hs : ∀ d, A (.sleep d))
    (tries : Nat) : Within (Ask A) (confirm cfg name tries) :=
  confirmWithin.asks cfg hc hs _

theorem stalls.asks (hv : ∀ timeout, A (.waitVanish "combat_cancel" timeout))
    (hs : ∀ d, A (.sleep d)) : ∀ waits, Within (Ask A) (stalls cfg waits)
  | 0 => .pure _
  | waits + 1 => by
    refine .bind (waitVanish.asks (hv _)) fun gone => ?_
    split
    · exact .pure _
    · exact .bind (wait.asks (hs _)) fun _ => stalls.asks hv hs waits

theorem findAndClick.asks {name : String} (tries : Nat) :
    Within (Ask (ScreenOp.Presses name)) (findAndClick cfg name tries) := by
  have hf : ScreenOp.Presses name (.find name) := rfl
  refine .bind (find.asks cfg hf (fun _ => trivial) _) fun found => ?_
  cases found with
  | some position => exact .bind (send.asks rfl) fun _ => .pure _
  | none => exact .pure _

/-- A position that is found is in the newest entry. -/
def Found (name : String) (found : Option Point) (b : Battle) : Prop :=
  ∀ p, found = some p →
    ∃ clock, b.journal.head? = some (.call clock (.find name) (.position (some p)))

theorem look.found (name : String) :
    Spec (fun _ => True) (look name) (Found name) fun _ _ => False := by
  refine ⟨fun b _ => ?_⟩
  rw [look_run]
  intro p hp
  rw [← hp]
  exact ⟨(b.screen.find name).2.now, rfl⟩

theorem find.found (name : String) (tries : Nat) :
    Spec (fun _ => True) (find cfg name tries) (Found name) fun _ _ => False := by
  rw [find]
  induction tries - 1 with
  | zero => exact look.found name
  | succ more ih =>
    refine .bind (look.found name) fun found => ?_
    cases found with
    | some position => exact .pure fun _ h => h
    | none =>
      have hs : Within (Ask fun _ => True) (sleep cfg.retry.pollInterval) := sleep.asks trivial
      exact .bind hs.spec fun _ => ih

/-- The element was looked for since `b₀`, and clicked as the last thing. -/
def Clicked (name : String) (b₀ b : Battle) : Prop :=
  ∃ b₁ p answer s, Asks (ScreenOp.Seeks name) b₀ b₁ ∧
    b₁.screen.perform? (.input (.click name p)) = some (answer, s) ∧
    b = b₁.answered (.input (.click name p)) answer s

theorem Clicked.asks (h : Clicked name b₀ b) : Asks (ScreenOp.Presses name) b₀ b := by
  obtain ⟨b₁, p, answer, s, ha, hs, rfl⟩ := h
  have ha := ReflTransGen.mono (fun _ _ ha => ha.mono fun _ => ScreenOp.Seeks.presses) _ _ ha
  exact ha.tail (.mk rfl hs)

/-- Pressing an element clicks it once, or only looks for it. -/
inductive Pressed (name : String) (b₀ : Battle) : Bool → Battle → Prop
  | clicked (h : Clicked name b₀ b) : Pressed name b₀ true b
  | missed (h : Asks (ScreenOp.Seeks name) b₀ b) : Pressed name b₀ false b

theorem Pressed.asks (h : Pressed name b₀ found b) : Asks (ScreenOp.Presses name) b₀ b := by
  cases h with
  | clicked h => exact h.asks
  | missed h =>
    exact ReflTransGen.mono (fun _ _ ha => ha.mono fun _ => ScreenOp.Seeks.presses) _ _ h

theorem findAndClick.pressed (name : String) (tries : Nat) (b₀ : Battle) :
    Triple (· = b₀) (findAndClick cfg name tries) (Pressed name b₀)
      fun halt b => halt = .overflow ∧ Asks (ScreenOp.Seeks name) b₀ b := by
  have hf : ScreenOp.Seeks name (.find name) := rfl
  refine .bind ((find.asks cfg hf (fun _ => trivial) _).entire b₀) fun found => ?_
  cases found with
  | some p =>
    have clicked : Triple (Asks (ScreenOp.Seeks name) b₀) (send (.click name p))
        (fun _ => Clicked name b₀)
        fun halt b => halt = .overflow ∧ Asks (ScreenOp.Seeks name) b₀ b := by
      refine .discard (.of_eq fun b hb => ?_)
      refine (perform.spec (.input (.click name p)) b).conseq (fun _ h => h) ?_ ?_
      · exact fun answer _ ⟨s, hs, h⟩ => ⟨b, p, answer, s, hb, hs, h⟩
      · exact fun _ _ ⟨ho, h⟩ => ⟨ho, h ▸ hb⟩
    exact .bind clicked fun _ => .pure fun _ h => .clicked h
  | none => exact .pure fun _ h => .missed h

end

end Play
end BattlePilot
