import BattlePilot.Proofs.Play.Keeping
import BattlePilot.Proofs.Play.Order
import BattlePilot.Proofs.Screen.Received

/-! What has been done since an earlier time of a battle: the newest entries of the journal, which
tell how the screen came to be what it is. -/

namespace BattlePilot

namespace Journal

/-- The operations on the screen without what came of them, the oldest first. -/
def ops (j : Journal) : List ScreenOp := j.calls.map (·.2.1)

/-- The labels clicked, the first one first. -/
def clicks (j : Journal) : List String := j.ops.filterMap ScreenOp.clicked?

@[simp] theorem calls_event (e : Event) (j : Journal) : calls (.event e :: j) = calls j := by
  simp [calls, Entry.call?]

@[simp] theorem calls_call (clock : Span) (op : ScreenOp) (answer : ScreenAnswer) (j : Journal) :
    calls (.call clock op answer :: j) = calls j ++ [(clock, op, answer)] := by
  simp [calls, Entry.call?]

@[simp] theorem calls_append (new j : Journal) : calls (new ++ j) = calls j ++ calls new := by
  simp [calls]

@[simp] theorem events_append (new j : Journal) : events (new ++ j) = events j ++ events new := by
  simp [events]

@[simp] theorem ops_event (e : Event) (j : Journal) : ops (.event e :: j) = ops j := by
  simp [ops]

@[simp] theorem ops_call (clock : Span) (op : ScreenOp) (answer : ScreenAnswer) (j : Journal) :
    ops (.call clock op answer :: j) = ops j ++ [op] := by
  simp [ops]

@[simp] theorem ops_append (new j : Journal) : ops (new ++ j) = ops j ++ ops new := by
  simp [ops]

@[simp] theorem clicks_event (e : Event) (j : Journal) : clicks (.event e :: j) = clicks j := by
  simp [clicks]

@[simp] theorem clicks_call (clock : Span) (op : ScreenOp) (answer : ScreenAnswer)
    (j : Journal) : clicks (.call clock op answer :: j) = clicks j ++ op.clicked?.toList := by
  simp only [clicks, ops_call, List.filterMap_append]
  cases h : op.clicked? <;> simp [h]

theorem forall_mem_ops {new : Journal} (h : ∀ e ∈ new, e.Asks A) : ∀ op ∈ new.ops, A op := by
  intro op hop
  obtain ⟨c, hc, rfl⟩ := List.mem_map.1 hop
  obtain ⟨e, he, hcall⟩ := List.mem_filterMap.1 hc
  cases e with
  | call =>
    cases hcall
    exact h _ (List.mem_reverse.1 he)
  | event => cases hcall

end Journal

namespace Battle

variable {b₀ b₁ b b' : Battle} {new later : Journal}

/-- The entries `new` have been added since `b₀`, and their operations led to the screen. -/
structure Since (b₀ : Battle) (new : Journal) (b : Battle) : Prop where
  journal : b.journal = new ++ b₀.journal
  screen : b₀.screen.performAll? new.ops = some b.screen

namespace Since

theorem refl (b : Battle) : b.Since [] b := ⟨rfl, rfl⟩

theorem trans (h : b₀.Since new b₁) (h' : b₁.Since later b) : b₀.Since (later ++ new) b where
  journal := by rw [h'.journal, h.journal, List.append_assoc]
  screen := by
    rw [Journal.ops_append, Screen.performAll?_append, h.screen, Option.bind_some, h'.screen]

theorem answered (h : b₀.Since new b) (hs : b.screen.perform? op = some (answer, s)) :
    b₀.Since (.call s.now op answer :: new) (b.answered op answer s) where
  journal := congrArg (_ :: ·) h.journal
  screen := by
    rw [Journal.ops_call, Screen.performAll?_concat, h.screen, Option.bind_some, hs]
    rfl

theorem noted (h : b₀.Since new b) (e : Event) : b₀.Since (.event e :: new) (b.noted e) where
  journal := congrArg (_ :: ·) h.journal
  screen := (congrArg b₀.screen.performAll? (Journal.ops_event e new)).trans h.screen

theorem kept (h : b₀.Since new b) (hs : b'.screen = b.screen) (hj : b'.journal = b.journal) :
    b₀.Since new b' where
  journal := hj.trans h.journal
  screen := hs ▸ h.screen

/-- Whatever is done, it is told. -/
theorem steady (b₀ : Battle) : Steady N fun b => ∃ new, b₀.Since new b where
  asked h := by
    rintro ⟨new, hnew⟩
    cases h with
    | mk _ hs => exact ⟨_, hnew.answered hs⟩
  noted _ := by
    rintro ⟨new, hnew⟩
    exact ⟨_, hnew.noted _⟩
  aimed _ := by
    rintro ⟨new, hnew⟩
    exact ⟨new, hnew.kept rfl rfl⟩
  kept hs hj _ _ := by
    rintro ⟨new, hnew⟩
    exact ⟨new, hnew.kept hs hj⟩

end Since

/-- Since `b₀` the screen was asked things, and nothing else was done. -/
structure Queried (b₀ : Battle) (new : Journal) (b : Battle) : Prop extends Since b₀ new b where
  events : new.events = []
  kept : b = { b₀ with screen := b.screen, journal := b.journal }

namespace Queried

theorem refl (b : Battle) : b.Queried [] b := ⟨.refl b, rfl, rfl⟩

theorem answered (h : b₀.Queried new b) (hs : b.screen.perform? op = some (answer, s)) :
    b₀.Queried (.call s.now op answer :: new) (b.answered op answer s) where
  toSince := h.toSince.answered hs
  events := (Journal.events_call ..).trans h.events
  kept := by
    rw [h.kept]
    rfl

theorem state (h : b₀.Queried new b) : b.state = b₀.state := by rw [h.kept]

theorem anchor (h : b₀.Queried new b) : b.anchor = b₀.anchor := by rw [h.kept]

theorem dispatched (h : b₀.Queried new b) : b.dispatched = b₀.dispatched := by rw [h.kept]

end Queried

theorem Asks.queried (h : Asks A b b') : ∃ new, b.Queried new b' ∧ ∀ e ∈ new, e.Asks A := by
  induction h with
  | refl => exact ⟨[], .refl b, nofun⟩
  | tail _ h ih =>
    obtain ⟨new, hnew, hasked⟩ := ih
    cases h with
    | mk hop hs => exact ⟨_, hnew.answered hs, List.forall_mem_cons.2 ⟨hop, hasked⟩⟩

/-- The screen was asked things since `b₀`, and these labels were clicked. -/
def Clicks (b₀ : Battle) (labels : List String) (b : Battle) : Prop :=
  ∃ new, b₀.Queried new b ∧ new.clicks = labels

theorem Clicks.refl (b : Battle) : b.Clicks [] b := ⟨[], .refl b, rfl⟩

theorem Clicks.answered (h : b₀.Clicks labels b) (hs : b.screen.perform? op = some (answer, s)) :
    b₀.Clicks (labels ++ op.clicked?.toList) (b.answered op answer s) := by
  obtain ⟨new, hnew, rfl⟩ := h
  exact ⟨_, hnew.answered hs, Journal.clicks_call ..⟩

/-- What clicks nothing adds no label. -/
theorem Clicks.asks (h : b₀.Clicks labels b) (hA : ∀ op, A op → op.clicked? = none)
    (ha : Asks A b b') : b₀.Clicks labels b' := by
  induction ha with
  | refl => exact h
  | tail _ ha ih =>
    cases ha with
    | mk hop hs => simpa [hA _ hop] using ih.answered hs

end Battle

/-- Whatever course only asks things, it is told what was asked. -/
theorem Play.Within.queried {m : Play α} (hm : Play.Within (Battle.Ask A) m) (b : Battle) :
    Play.Triple (· = b) m (fun _ b' => ∃ new, b.Queried new b' ∧ ∀ op ∈ new.ops, A op)
      fun _ _ => True := by
  apply (hm.entire b).conseq (fun _ h => h)
  · intro _ _ h
    obtain ⟨new, hnew, hasked⟩ := Battle.Asks.queried h
    exact ⟨new, hnew, Journal.forall_mem_ops hasked⟩
  · exact fun _ _ _ => trivial

end BattlePilot
