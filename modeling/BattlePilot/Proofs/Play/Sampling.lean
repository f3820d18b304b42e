import BattlePilot.Proofs.Play.Since
import BattlePilot.Proofs.Screen.Samples

/-! Searches by the samples that they take of the screen: what they ask and when they end, what is
clicked then, what the screen is like after that, and what was looked for first. -/

namespace BattlePilot

/-- A search for an element that is clicked where it is found, and what the screen is then. -/
inductive Screen.ClickTried (s : Screen) (pause : Span) (name : String) (tries : Nat) :
    Bool → Screen → Prop
  | clicked (hs : s.Sought pause name tries (some p) s₁)
    (hr : s₁.receive? (.click name p) = some s') : ClickTried s pause name tries true s'
  | missed (hs : s.Sought pause name tries none s') : ClickTried s pause name tries false s'

/-- What is asked in `k` looks in vain, with a pause after each. -/
def ScreenOp.inVain (look : ScreenOp) (pause : Span) (k : Nat) : List ScreenOp :=
  (List.replicate k [look, .sleep pause]).flatten

theorem ScreenOp.inVain_succ (look : ScreenOp) (pause : Span) (k : Nat) :
    look.inVain pause (k + 1) = look.inVain pause k ++ [look] ++ [.sleep pause] := by
  simp [inVain, List.replicate_succ']

namespace Battle

/-- A search that has looked `k` times in vain and paused after each look, and looks next. -/
structure Searching (b₀ : Battle) (look : ScreenOp) (pause : Span) (name : String) (k : Nat)
    (b : Battle) : Prop where
  hidden : b₀.screen.HiddenFor pause name k
  sample : b₀.screen.sample? pause k = some b.screen.settle
  told : ∃ new, b₀.Queried new b ∧ new.ops = look.inVain pause k

/-- A search that has looked `k` times in vain, paused after each look, and looked once more. -/
structure Sampled (b₀ : Battle) (look : ScreenOp) (pause : Span) (name : String) (k : Nat)
    (b : Battle) : Prop where
  hidden : b₀.screen.HiddenFor pause name k
  sample : b₀.screen.sample? pause k = some b.screen
  told : ∃ new, b₀.Queried new b ∧ new.ops = look.inVain pause k ++ [look]

/-- How a search ends that looks `tries` times at most: with the first sample that shows the
element, or else with the last one, or with the last one that the clock can hold. -/
inductive SearchEnds (b₀ : Battle) (look : ScreenOp) (pause : Span) (name : String) (tries : Nat)
    (found : Screen → α) (missed : α) : Except Halt α × Battle → Prop
  | found (hk : k < tries) (h : b₀.Sampled look pause name k b)
    (hseen : b.screen.isVisible name = true) :
    SearchEnds b₀ look pause name tries found missed (.ok (found b.screen), b)
  | missed (hk : k + 1 = tries) (h : b₀.Sampled look pause name k b)
    (hhidden : b.screen.isVisible name = false) :
    SearchEnds b₀ look pause name tries found missed (.ok missed, b)
  | cutShort (hk : k + 1 < tries) (h : b₀.Sampled look pause name k b)
    (hhidden : b.screen.isVisible name = false)
    (hnone : b₀.screen.sample? pause (k + 1) = none) :
    SearchEnds b₀ look pause name tries found missed (.error .overflow, b)

variable {b₀ b : Battle} {look : ScreenOp} {pause : Span} {name : String} {k : Nat}

theorem Searching.start (b : Battle) : b.Searching look pause name 0 b :=
  ⟨fun _ h => absurd h (Nat.not_lt_zero _), rfl, [], .refl b, rfl⟩

theorem Searching.looked (h : b₀.Searching look pause name k b)
    (hs : b.screen.perform? look = some (answer, b.screen.settle)) :
    b₀.Sampled look pause name k (b.answered look answer b.screen.settle) where
  hidden := h.hidden
  sample := h.sample
  told := by
    obtain ⟨new, hnew, hops⟩ := h.told
    exact ⟨_, hnew.answered hs, hops ▸ Journal.ops_call ..⟩

theorem Sampled.hidden_succ (h : b₀.Sampled look pause name k b)
    (hhidden : b.screen.isVisible name = false) : b₀.screen.HiddenFor pause name (k + 1) := by
  intro j hj
  rcases Nat.lt_succ_iff_lt_or_eq.1 hj with hj | rfl
  · exact h.hidden j hj
  · exact ⟨_, h.sample, hhidden⟩

theorem Sampled.sample_succ (h : b₀.Sampled look pause name k b) :
    b₀.screen.sample? pause (k + 1) = b.screen.sleep? pause := by
  rw [Screen.sample?, h.sample, Option.bind_some]

theorem Sampled.slept (h : b₀.Sampled look pause name k b)
    (hhidden : b.screen.isVisible name = false) (hs : b.screen.sleep? pause = some s) :
    b₀.Searching look pause name (k + 1) (b.answered (.sleep pause) .nothing s) where
  hidden := h.hidden_succ hhidden
  sample := h.sample_succ.trans (hs.trans (congrArg some (Screen.settle_of_sleep? hs).symm))
  told := by
    obtain ⟨new, hnew, hops⟩ := h.told
    refine ⟨_, hnew.answered (congrArg (Option.map _) hs), ?_⟩
    rw [Journal.ops_call, hops, ScreenOp.inVain_succ]

variable {tries : Nat} {found : Screen → α} {missed : α}

/-- A search comes to what its samples show. -/
theorem SearchEnds.sought
    (h : b₀.SearchEnds look pause name tries found missed (.ok answer, b)) :
    b₀.screen.Sought pause name tries (some (b.screen.position name)) b.screen ∧
        answer = found b.screen ∨
      b₀.screen.Sought pause name tries none b.screen ∧ answer = missed := by
  cases h with
  | found hk h hseen => exact .inl ⟨.found hk h.sample hseen h.hidden, rfl⟩
  | missed hk h hhidden =>
    subst hk
    exact .inr ⟨.missed h.sample (h.hidden_succ hhidden), rfl⟩

theorem SearchEnds.stopped
    (h : b₀.SearchEnds look pause name tries found missed (.error halt, b)) :
    halt = .overflow ∧ b₀.screen.CutShort pause name tries := by
  cases h with
  | cutShort hk h hhidden hnone =>
    exact ⟨rfl, _, hk, hnone, h.hidden_succ hhidden⟩

end Battle

namespace Play
open Battle

variable (cfg : Settings)

/-- What the screen is asked, it answers, or a number leaves its range. -/
theorem perform.answers (op : ScreenOp) (b : Battle) :
    Triple (· = b) (perform op) (fun answer b' => b.screen.perform? op = some (answer, b'.screen))
      fun halt _ => halt = .overflow ∧ b.screen.perform? op = none := by
  refine ⟨fun b' h => ?_⟩
  subst h
  rw [perform_run]
  cases b'.screen.perform? op with
  | some answered => exact rfl
  | none => exact ⟨rfl, rfl⟩

/-- Nothing else happens in a sleep, and nothing at all in one that the clock cannot hold. -/
theorem sleep.answered (d : Span) (b : Battle) :
    Triple (· = b) (sleep d)
      (fun _ b' => ∃ s, b.screen.sleep? d = some s ∧ b' = b.answered (.sleep d) .nothing s)
      fun halt b' => halt = .overflow ∧ b.screen.sleep? d = none ∧ b' = b := by
  apply Triple.discard
  apply ((perform.spec (.sleep d) b).both (perform.answers (.sleep d) b)).conseq fun _ h => ⟨h, h⟩
  · rintro answer b' ⟨⟨s, hs, rfl⟩, -⟩
    obtain ⟨slept, hslept, h⟩ := Option.map_eq_some_iff.1 hs
    cases h
    exact ⟨_, hslept, rfl⟩
  · rintro halt b' ⟨⟨ho, hb⟩, -, hnone⟩
    exact ⟨ho, Option.map_eq_none_iff.1 hnone, hb⟩

theorem sleep.sleeps (d : Span) (b : Battle) :
    Triple (· = b) (sleep d) (fun _ b' => b.screen.sleep? d = some b'.screen)
      fun halt _ => halt = .overflow ∧ b.screen.sleep? d = none := by
  apply (sleep.answered d b).conseq (fun _ h => h)
  · rintro _ b' ⟨s, hs, rfl⟩
    exact hs
  · exact fun _ _ h => ⟨h.1, h.2.1⟩

theorem send.receives (input : Input) (b : Battle) :
    Triple (· = b) (send input) (fun _ b' => b.screen.receive? input = some b'.screen)
      fun halt _ => halt = .overflow ∧ b.screen.receive? input = none := by
  refine .discard ((perform.answers (.input input) b).conseq (fun _ h => h) ?_ ?_)
  · intro answer b' h
    obtain ⟨s, hs, h⟩ := Option.map_eq_some_iff.1 h
    cases h
    exact hs
  · exact fun _ _ h => ⟨h.1, Option.map_eq_none_iff.1 h.2⟩

/-- One look of a search: it settles the screen, and answers as it is then. -/
def Looks (ask : Play α) (look : ScreenOp) (name : String) (found : Screen → α) (missed : α) :
    Prop :=
  ∀ b, Triple (· = b) ask
    (fun answer b' => ∃ told, b.screen.perform? look = some (told, b.screen.settle) ∧
      b' = b.answered look told b.screen.settle ∧
      answer = if b'.screen.isVisible name then found b'.screen else missed)
    fun _ _ => False

theorem look.looks (name : String) :
    Looks (look name) (.find name) name (fun s => some (s.position name)) none :=
  fun _ => ⟨fun _ h => h ▸ ⟨_, rfl, rfl, rfl⟩⟩

theorem sees.looks (name : String) :
    Looks (sees name) (.confirm name) name (fun _ => true) false := by
  refine fun b => ⟨fun b' h => ?_⟩
  subst h
  refine ⟨_, rfl, rfl, ?_⟩
  change b'.screen.settle.isVisible name = if b'.screen.settle.isVisible name then true else false
  cases b'.screen.settle.isVisible name <;> rfl

/-- Who looks, pauses after each look in vain and looks again, takes one sample after another, and
ends with the first that shows the element. The looks so far and those to come make up the tries. -/
theorem askWithin.searches {ask : Play α} {look : ScreenOp} {name : String} {found : Screen → α}
    {missed : α} {seen : α → Bool} (hask : Looks ask look name found missed)
    (hfound : ∀ s, seen (found s) = true) (hmissed : seen missed = false) (pause : Span)
    (b₀ : Battle) (k more : Nat) :
    Triple (b₀.Searching look pause name k) (askWithin ask seen pause more)
      (fun answer b => b₀.SearchEnds look pause name (k + more + 1) found missed (.ok answer, b))
      fun halt b => b₀.SearchEnds look pause name (k + more + 1) found missed (.error halt, b) := by
  induction more generalizing k with
  | zero =>
    refine .of_eq fun b hb => (hask b).conseq (fun _ h => h) ?_ fun _ _ => False.elim
    rintro answer b₁ ⟨told, hs, rfl, rfl⟩
    have hsampled := hb.looked hs
    split
    · next hseen => exact .found (Nat.lt_succ_self k) hsampled hseen
    · next hhidden => exact .missed rfl hsampled (eq_false_of_ne_true hhidden)
  | succ more ih =>
    refine .of_eq fun b hb => .bind ((hask b).mono_halt fun _ _ => False.elim)
      fun answer => .of_eq fun b₁ ⟨told, hs, hb₁, hanswer⟩ => ?_
    have hsampled : b₀.Sampled look pause name k b₁ := hb₁ ▸ hb.looked hs
    subst hanswer
    cases hvisible : b₁.screen.isVisible name with
    | true =>
      rw [if_pos rfl, hfound]
      refine .pure fun b' h => ?_
      subst h
      exact .found (by omega) hsampled hvisible
    | false =>
      rw [if_neg Bool.false_ne_true, hmissed]
      refine .bind ((sleep.answered pause b₁).mono_halt ?_) fun _ => .of_eq ?_
      · rintro halt b' ⟨rfl, hnone, rfl⟩
        exact .cutShort (by omega) hsampled hvisible (hsampled.sample_succ.trans hnone)
      · rintro _ ⟨s, hslept, rfl⟩
        have hlooks : k + 1 + more + 1 = k + (more + 1) + 1 := by omega
        exact hlooks ▸ (ih (k + 1)).mono_start fun _ h => h ▸ hsampled.slept hvisible hslept

theorem find.searches (name : String) (tries : Nat) (b : Battle) :
    Triple (· = b) (find cfg name tries)
      (fun answer b' => b.SearchEnds (.find name) cfg.retry.pollInterval name (max tries 1)
        (fun s => some (s.position name)) none (.ok answer, b'))
      fun halt b' => b.SearchEnds (.find name) cfg.retry.pollInterval name (max tries 1)
        (fun s => some (s.position name)) none (.error halt, b') := by
  have hlooks : 0 + (tries - 1) + 1 = max tries 1 := by omega
  rw [find, findWithin_eq, ← hlooks]
  apply (askWithin.searches (look.looks name) (fun _ => rfl) rfl _ b 0 (tries - 1)).mono_start
  exact fun _ h => h ▸ .start b

theorem confirm.searches (name : String) (tries : Nat) (b : Battle) :
    Triple (· = b) (confirm cfg name tries)
      (fun seen b' => b.SearchEnds (.confirm name) cfg.retry.pollInterval name (max tries 1)
        (fun _ => true) false (.ok seen, b'))
      fun halt b' => b.SearchEnds (.confirm name) cfg.retry.pollInterval name (max tries 1)
        (fun _ => true) false (.error halt, b') := by
  have hlooks : 0 + (tries - 1) + 1 = max tries 1 := by omega
  rw [confirm, confirmWithin_eq, ← hlooks]
  apply (askWithin.searches (sees.looks name) (fun _ => rfl) rfl _ b 0 (tries - 1)).mono_start
  exact fun _ h => h ▸ .start b

theorem find.samples (name : String) (tries : Nat) (b : Battle) :
    Triple (· = b) (find cfg name tries)
      (fun answer b' => b.screen.Sought cfg.retry.pollInterval name (max tries 1) answer b'.screen)
      fun halt _ => halt = .overflow ∧
        b.screen.CutShort cfg.retry.pollInterval name (max tries 1) := by
  refine (find.searches cfg name tries b).conseq (fun _ h => h) ?_ fun _ _ h => h.stopped
  intro answer b' h
  rcases h.sought with ⟨hs, rfl⟩ | ⟨hs, rfl⟩ <;> exact hs

theorem confirm.samples (name : String) (tries : Nat) (b : Battle) :
    Triple (· = b) (confirm cfg name tries)
      (fun seen b' => ∃ answer, seen = answer.isSome ∧
        b.screen.Sought cfg.retry.pollInterval name (max tries 1) answer b'.screen)
      fun halt _ => halt = .overflow ∧
        b.screen.CutShort cfg.retry.pollInterval name (max tries 1) := by
  refine (confirm.searches cfg name tries b).conseq (fun _ h => h) ?_ fun _ _ h => h.stopped
  intro seen b' h
  rcases h.sought with ⟨hs, rfl⟩ | ⟨hs, rfl⟩ <;> exact ⟨_, rfl, hs⟩

theorem findAndClick.samples (name : String) (tries : Nat) (b : Battle) :
    Triple (· = b) (findAndClick cfg name tries)
      (fun clicked b' => b.screen.ClickTried cfg.retry.pollInterval name (max tries 1) clicked
        b'.screen)
      fun halt _ => halt = .overflow := by
  apply Triple.bind ((find.samples cfg name tries b).mono_halt fun _ _ h => h.1)
  intro found
  cases found with
  | some position =>
    refine .of_eq fun b₁ hs => .bind ((send.receives _ b₁).mono_halt fun _ _ h => h.1) fun _ => ?_
    exact .pure fun _ hr => .clicked hs hr
  | none => exact .pure fun _ hs => .missed hs

/-! ### What is looked for first -/

/-- An element is looked for first, and nothing is noted. -/
def Opens (name : String) (m : Play α) : Prop :=
  ∀ j, Triple (·.journal = j) m (fun _ b => ∃ rest clock answer,
    b.journal = rest ++ .call clock (.find name) answer :: j ∧ ∀ e ∈ rest, e.event? = none)
    fun _ _ => True

theorem Opens.bind {m : Play α} {f : α → Play β} (hm : Opens name m)
    (hf : ∀ a, Within (Ask A) (f a)) : Opens name (m >>= f) := by
  refine fun j => .bind (hm j) fun a => .of_eq fun b ⟨rest, clock, answer, hj, hrest⟩ => ?_
  refine ((hf a).entire b).conseq (fun _ h => h) ?_ fun _ _ _ => trivial
  intro _ b' h
  obtain ⟨new, hnew, hasked⟩ := Asks.entries h
  refine ⟨new ++ rest, clock, answer, ?_, fun e he => ?_⟩
  · rw [hnew, hj, List.append_assoc]
  · rcases List.mem_append.1 he with he | he
    · exact (hasked e he).event?
    · exact hrest e he

theorem look.opens (name : String) : Opens name (look name) := by
  refine fun j => ⟨fun b hb => ?_⟩
  subst hb
  exact ⟨[], _, _, rfl, nofun⟩

theorem find.opens (name : String) (tries : Nat) : Opens name (find cfg name tries) := by
  unfold find
  cases tries - 1 with
  | zero => exact look.opens name
  | succ more =>
    refine .bind (A := fun _ => True) (look.opens name) fun found => ?_
    cases found with
    | some position => exact .pure _
    | none =>
      refine .bind (sleep.asks trivial) fun _ => ?_
      exact findWithin.asks cfg trivial (fun _ => trivial) _

theorem findAndClick.opens (name : String) (tries : Nat) :
    Opens name (findAndClick cfg name tries) := by
  refine .bind (A := fun _ => True) (find.opens cfg name tries) fun found => ?_
  cases found with
  | some position => exact .bind (send.asks trivial) fun _ => .pure _
  | none => exact .pure _

end Play
end BattlePilot
