import BattlePilot.Proofs.Play.Since
import BattlePilot.Proofs.Screen.Clock

/-! How long courses take by the clock of the screen, and why a number may leave its range
meanwhile: the clock cannot hold the time that they take, or a click cannot be counted. -/

namespace BattlePilot

/-- The longest that an operation may take, in nanoseconds. -/
def ScreenOp.span : ScreenOp → Nat
  | waitVanish _ timeout => timeout.nanos
  | sleep d => d.nanos
  | _ => 0

namespace Screen

variable {s s' : Screen} {op : ScreenOp}

/-- The clock cannot hold a time, or one more click on one of the labels cannot be counted. -/
def Overruns (s : Screen) (labels : List String) (time : Nat) : Prop :=
  Span.limit ≤ time ∨ ∃ label ∈ labels, clickLimit ≤ s.clickCount label + 1

theorem Overruns.later (h : s.Overruns labels time) (hle : time ≤ time') :
    s.Overruns labels time' :=
  h.imp_left fun h => Nat.le_trans h hle

theorem limit_le_of_add? {a b : Span} (h : a.add? b = none) : Span.limit ≤ a.nanos + b.nanos := by
  rw [Span.add?, Span.ofNanos?, dite_eq_right_iff] at h
  exact Nat.le_of_not_lt fun hlt => nomatch h hlt

theorem Vanishing.now_le (h : Vanishing name deadline s r) (hd : s.now.nanos ≤ deadline.nanos) :
    r.2.now.nanos ≤ deadline.nanos := by
  induction h with
  | gone | late => exact hd
  | @again r s' s _ hahead hs _ ih => exact ih (stepsTo_step (s := s.settle) hahead hs).1

theorem waitVanish?_now_le {timeout : Span}
    (h : s.waitVanish? name timeout = some (gone, s')) :
    s'.now.nanos ≤ s.now.nanos + timeout.nanos := by
  obtain ⟨deadline, hdeadline, -⟩ := Option.bind_eq_some_iff.1 h
  obtain ⟨r, hr, hvanishing⟩ := waitVanish?_vanishing name hdeadline
  rw [h] at hr
  cases hr
  have hnanos := Span.nanos_of_add? hdeadline
  exact hnanos ▸ hvanishing.now_le (by omega)

theorem perform?_now_le_span (h : s.perform? op = some (answer, s')) :
    s'.now.nanos ≤ s.now.nanos + op.span := by
  cases op with
  | sleep d => exact Nat.le_of_eq (perform?_sleep_now h)
  | waitVanish name timeout =>
    obtain ⟨⟨gone, s₁⟩, hwait, h⟩ := Option.map_eq_some_iff.1 h
    cases h
    exact waitVanish?_now_le hwait
  | input i =>
    obtain ⟨s₁, hreceived, h⟩ := Option.map_eq_some_iff.1 h
    cases h
    exact Nat.le_of_eq (congrArg Span.nanos (receive?_now hreceived))
  | _ =>
    cases h
    exact Nat.le_refl _

theorem countClick?_eq_none (h : s.countClick? label = none) :
    clickLimit ≤ s.clickCount label + 1 :=
  Nat.le_of_not_lt fun hlt => nomatch ite_eq_right_iff.1 h hlt

theorem receive?_eq_none {i : Input} (h : s.receive? i = none) :
    ∃ label, i.label? = some label ∧ clickLimit ≤ s.clickCount label + 1 := by
  cases i with
  | click label | doubleClick label =>
    have hcount : countClick? _ label = none := h
    have hlimit := countClick?_eq_none hcount
    exact ⟨label, rfl, hlimit⟩
  | _ => cases h

/-- An operation fails only where a number leaves its range. -/
theorem perform?_eq_none (h : s.perform? op = none)
    (hop : ∀ label, op.clicked? = some label → label ∈ labels) :
    s.Overruns labels (s.now.nanos + op.span) := by
  cases op with
  | sleep d => exact .inl (limit_le_of_add? (Option.map_eq_none_iff.1 (Option.map_eq_none_iff.1 h)))
  | waitVanish name timeout =>
    have hnone := Option.map_eq_none_iff.1 h
    cases hdeadline : s.now.add? timeout with
    | some deadline =>
      obtain ⟨r, hr, -⟩ := waitVanish?_vanishing name hdeadline
      rw [hnone] at hr
      cases hr
    | none => exact .inl (limit_le_of_add? hdeadline)
  | input i =>
    obtain ⟨label, hlabel, hcount⟩ := receive?_eq_none (Option.map_eq_none_iff.1 h)
    exact .inr ⟨label, hop label hlabel, hcount⟩
  | _ => cases h

end Screen

namespace Play
open Battle

/-- Waiting takes its time, and only an overflow cuts it short. -/
theorem wait.passes (d : Span) (b₀ : Battle) :
    Triple (· = b₀) (wait d) (fun _ b => b.state = b₀.state ∧
        b.screen.now.nanos = b₀.screen.now.nanos + d.nanos)
      fun halt _ => halt ≠ .unfinished := by
  unfold wait
  split
  · next hzero =>
    have hd : d.nanos = 0 := eq_of_beq hzero
    refine .pure fun b h => ?_
    subst h
    exact ⟨rfl, by omega⟩
  · refine .discard ((perform.spec (.sleep d) b₀).conseq (fun _ h => h) ?_ ?_)
    · rintro _ _ ⟨s, hs, rfl⟩
      exact ⟨rfl, Screen.perform?_sleep_now hs⟩
    · rintro _ _ ⟨rfl, -⟩
      nofun

/-- A course that clicks nothing but `labels` and takes `d` nanoseconds at most. Only an overflow
cuts it short, and only where the clock cannot hold that time, or the clicks are used up. -/
def Takes (labels : List String) (d : Nat) (m : Play α) : Prop :=
  ∀ start, Triple (·.screen.now.nanos ≤ start) m
    (fun _ b => b.screen.now.nanos ≤ start + d)
    fun halt b => halt = .overflow ∧ b.screen.now.nanos ≤ start + d ∧
      b.screen.Overruns labels (start + d)

variable {labels : List String}

namespace Takes

theorem pure (a : α) : Takes labels d (Pure.pure a : Play α) :=
  fun _ => .pure fun _ h => Nat.le_add_right_of_le h

theorem mono {m : Play α} (hm : Takes labels d m) (hle : d ≤ d') : Takes labels d' m := by
  intro start
  have hle : start + d ≤ start + d' := Nat.add_le_add_left hle start
  apply (hm start).conseq (fun _ h => h)
  · exact fun _ _ h => Nat.le_trans h hle
  · exact fun _ _ h => ⟨h.1, Nat.le_trans h.2.1 hle, h.2.2.later hle⟩

theorem bind {m : Play α} {f : α → Play β} (hm : Takes labels d m)
    (hf : ∀ a, Takes labels d' (f a)) : Takes labels (d + d') (m >>= f) := by
  intro start
  have hle : start + d ≤ start + (d + d') := Nat.add_le_add_left (Nat.le_add_right d d') start
  apply Triple.bind ((hm start).mono_halt fun _ _ h => ?_)
  · intro a
    rw [← Nat.add_assoc]
    exact hf a (start + d)
  · exact ⟨h.1, Nat.le_trans h.2.1 hle, h.2.2.later hle⟩

theorem zero_bind {m : Play α} {f : α → Play β} (hm : Takes labels 0 m)
    (hf : ∀ a, Takes labels d (f a)) : Takes labels d (m >>= f) := by
  simpa using bind hm hf

theorem bind_zero {m : Play α} {f : α → Play β} (hm : Takes labels d m)
    (hf : ∀ a, Takes labels 0 (f a)) : Takes labels d (m >>= f) :=
  bind hm hf

/-- One part after another, of one length. -/
theorem bind_succ {m : Play α} {f : α → Play β} (hm : Takes labels d m)
    (hf : ∀ a, Takes labels (n * d) (f a)) : Takes labels ((n + 1) * d) (m >>= f) := by
  rw [Nat.succ_mul, Nat.add_comm]
  exact hm.bind hf

theorem bind_option_zero {m : Play (Option α)} {f : Option α → Play β} (hm : Takes labels d m)
    (hsome : ∀ a, Takes labels 0 (f (some a))) (hnone : Takes labels 0 (f none)) :
    Takes labels d (m >>= f) := by
  apply bind_zero hm
  intro found
  cases found with
  | some a => exact hsome a
  | none => exact hnone

theorem discard {m : Play α} (hm : Takes labels d m) : Takes labels d (Functor.discard m) :=
  fun start => (hm start).discard

theorem get_bind {f : Battle → Play β} (hf : ∀ b, Takes labels d (f b)) :
    Takes labels d (get >>= f) :=
  fun start => .get_bind fun b hb => (hf b start).mono_start fun _ h => h ▸ hb

theorem turn_bind {f : Nat → Play β} (hf : ∀ n, Takes labels d (f n)) :
    Takes labels d (currentTurn >>= f) :=
  fun start => .turn_bind fun b hb => (hf b.state.currentTurn start).mono_start fun _ h => h ▸ hb

theorem onlyIf {condition : Bool} {m : Play Bool} (hm : Takes labels d m) :
    Takes labels d (onlyIf condition m) := by
  unfold Play.onlyIf
  split
  · exact hm
  · exact .pure _

/-- What is not done to the screen takes no time. -/
theorem modify {f : Battle → Battle} (hf : ∀ b, (f b).screen = b.screen) :
    Takes labels d (modify f : Play Unit) := by
  intro start
  apply Triple.modify
  intro b hb
  rw [hf]
  exact Nat.le_add_right_of_le hb

end Takes

theorem perform.takes (op : ScreenOp)
    (hop : ∀ label, op.clicked? = some label → label ∈ labels) :
    Takes labels op.span (perform op) := by
  refine fun start => .of_eq fun b hb => ?_
  have hle : b.screen.now.nanos + op.span ≤ start + op.span := Nat.add_le_add_right hb _
  refine ⟨fun b' h => ?_⟩
  subst h
  rw [perform_run]
  cases hs : b'.screen.perform? op with
  | some answered => exact Nat.le_trans (Screen.perform?_now_le_span hs) hle
  | none =>
    exact ⟨rfl, Nat.le_add_right_of_le hb, (Screen.perform?_eq_none hs hop).later hle⟩

theorem look.takes (name : String) : Takes labels 0 (look name) := by
  apply Takes.bind_zero (perform.takes (.find name) nofun)
  intro answer
  split <;> exact .pure _

theorem sees.takes (name : String) : Takes labels 0 (sees name) := by
  apply Takes.bind_zero (perform.takes (.confirm name) nofun)
  intro answer
  split <;> exact .pure _

theorem waitVanish.takes (name : String) (timeout : Span) :
    Takes labels timeout.nanos (waitVanish name timeout) := by
  apply Takes.bind_zero (perform.takes (.waitVanish name timeout) nofun)
  intro answer
  split <;> exact .pure _

theorem sleep.takes (d : Span) : Takes labels d.nanos (sleep d) :=
  .discard (perform.takes (.sleep d) nofun)

theorem wait.takes (d : Span) : Takes labels d.nanos (wait d) := by
  unfold wait
  split
  · exact .pure _
  · exact sleep.takes d

theorem click.takes {label : String} (h : label ∈ labels) (position : Point) :
    Takes labels 0 (send (.click label position)) := by
  apply Takes.discard (perform.takes (.input (.click label position)) _)
  intro label' hlabel
  cases hlabel
  exact h

theorem askWithin.takes {ask : Play α} {seen : α → Bool} (ha : Takes labels 0 ask) (pause : Span)
    (more : Nat) : Takes labels (more * pause.nanos) (askWithin ask seen pause more) := by
  induction more with
  | zero => exact ha.mono (Nat.zero_le _)
  | succ more ih =>
    apply Takes.zero_bind ha
    intro answer
    split
    · exact .pure _
    · rw [Nat.succ_mul, Nat.add_comm]
      exact .bind (sleep.takes _) fun _ => ih

variable (cfg : Settings)

theorem find.takes (name : String) (tries : Nat) :
    Takes labels ((tries - 1) * cfg.retry.pollInterval.nanos) (find cfg name tries) := by
  rw [find, findWithin_eq]
  exact askWithin.takes (look.takes name) _ (tries - 1)

theorem confirm.takes (name : String) (tries : Nat) :
    Takes labels ((tries - 1) * cfg.retry.pollInterval.nanos) (confirm cfg name tries) := by
  rw [confirm, confirmWithin_eq]
  exact askWithin.takes (sees.takes name) _ (tries - 1)

theorem findAndClick.takes {name : String} (h : name ∈ labels) (tries : Nat) :
    Takes labels ((tries - 1) * cfg.retry.pollInterval.nanos) (findAndClick cfg name tries) :=
  .bind_option_zero (find.takes cfg name tries)
    (fun position => .bind_zero (click.takes h position) fun _ => .pure _) (.pure _)

/-- A press takes four pauses at most. -/
theorem press.takes {name : String} (h : name ∈ labels) :
    Takes labels (4 * cfg.retry.pollInterval.nanos) (press cfg name) :=
  .discard (findAndClick.takes cfg h usualTries)

end Play
end BattlePilot
