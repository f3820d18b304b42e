import BattlePilot.Proofs.Play.Durations
import BattlePilot.Proofs.Play.KeepingCourses
import BattlePilot.Proofs.Play.Rounds
import BattlePilot.Proofs.Play.Since

/-! Automation is credited with a turn only if it played one. The polls are the screens on which the
attack button was looked for; a turn was played if its input was away at some poll and back at a
later one. -/

namespace BattlePilot

/-! ### Polls -/

namespace Screen

/-- The screens on which an operation is asked, while others are performed in a row. -/
def whenAsked (op : ScreenOp) : Screen → List ScreenOp → List Screen
  | _, [] => []
  | s, asked :: ops => (if asked = op then [s] else []) ++
      ((s.perform? asked).map (·.2)).elim [] fun s' => whenAsked op s' ops

theorem whenAsked_concat {s s' : Screen} {ops : List ScreenOp} (h : s.performAll? ops = some s')
    (op asked : ScreenOp) : s.whenAsked op (ops ++ [asked]) =
      s.whenAsked op ops ++ if asked = op then [s'] else [] := by
  induction ops generalizing s with
  | nil =>
    cases h
    cases hasked : s'.perform? asked <;> simp [whenAsked, hasked]
  | cons first ops ih =>
    rw [performAll?, List.foldlM_cons] at h
    obtain ⟨s₁, hfirst, hrest⟩ := Option.bind_eq_some_iff.1 h
    simp only [List.cons_append, whenAsked, hfirst, Option.elim_some, ih hrest, List.append_assoc]

/-- Whether the screen is ready for a turn or for the next battle. -/
def offersTurn (s : Screen) : Bool := s.settle.isVisible "attack" || s.settle.isVisible "next"

end Screen

/-- The input of a turn was away at some poll and back at a later one. -/
def TurnPlayed (polls : List Screen) : Prop :=
  ∃ away back, [away, back].Sublist polls ∧ away.offersTurn = false ∧ back.offersTurn = true

/-- Whether the input of a turn was away at some poll. -/
def turnLeft (polls : List Screen) : Bool := polls.any (!·.offersTurn)

theorem turnLeft_concat (polls : List Screen) (s : Screen) :
    turnLeft (polls ++ [s]) = (turnLeft polls || !s.offersTurn) := by
  simp [turnLeft]

theorem turnPlayed_concat {polls : List Screen} {s : Screen} : TurnPlayed (polls ++ [s]) ↔
    TurnPlayed polls ∨ (turnLeft polls = true ∧ s.offersTurn = true) := by
  constructor
  · rintro ⟨away, back, hsub, haway, hback⟩
    obtain ⟨first, last, hsplit, hfirst, hlast⟩ := List.sublist_append_iff.1 hsub
    cases hlast with
    | cons _ hnone =>
      obtain rfl := List.sublist_nil.1 hnone
      rw [List.append_nil] at hsplit
      exact .inl ⟨away, back, hsplit ▸ hfirst, haway, hback⟩
    | cons_cons _ hnone =>
      obtain rfl := List.sublist_nil.1 hnone
      obtain ⟨rfl, hs⟩ : [away] = first ∧ [back] = [s] := List.append_inj' hsplit rfl
      cases hs
      refine .inr ⟨List.any_eq_true.2 ⟨away, List.singleton_sublist.1 hfirst, ?_⟩, hback⟩
      rw [haway]
      rfl
  · rintro (⟨away, back, hsub, hseen⟩ | ⟨hleft, hback⟩)
    · exact ⟨away, back, hsub.trans (List.sublist_append_left ..), hseen⟩
    · obtain ⟨away, hmem, haway⟩ := List.any_eq_true.1 hleft
      refine ⟨away, s, ?_, Bool.not_eq_true' _ ▸ haway, hback⟩
      exact (List.singleton_sublist.2 hmem).append (List.Sublist.refl [s])

/-! ### Watching -/

/-- A name of anything but the buttons that take a turn or go on to the next battle. -/
def NamesNoTurn (name : String) : Prop := name ≠ "attack" ∧ name ≠ "next"

instance (name : String) : Decidable (NamesNoTurn name) := inferInstanceAs (Decidable (_ ∧ _))

namespace Battle

/-- Since `b₀` no turn was taken by hand and none was counted. -/
structure Watched (b₀ : Battle) (new : Journal) (b : Battle) : Prop extends Since b₀ new b where
  clicks : ∀ label ∈ new.clicks, NamesNoTurn label
  turn : b.state.currentTurn = b₀.state.currentTurn
  counted : ∀ turn, .turnEnded turn ∉ new.events

/-- The screens on which the attack button was looked for since `b₀`. -/
def pollsOf (b₀ : Battle) (new : Journal) : List Screen :=
  b₀.screen.whenAsked (.find "attack") new.ops

/-- Nothing was done since `b₀` but to watch, with these polls, up to `clock` at least. -/
def Polled (b₀ : Battle) (polls : List Screen) (clock : Nat) (b : Battle) : Prop :=
  ∃ new, b₀.Watched new b ∧ b₀.pollsOf new = polls ∧ clock ≤ b.screen.now.nanos

variable {b₀ : Battle} {polls : List Screen} {clock : Nat}

theorem Watched.asked (h : b₀.Watched new b) (hop : ∀ label, op.clicked? = some label →
    NamesNoTurn label) (hs : b.screen.perform? op = some (answer, s)) :
    b₀.Watched (.call s.now op answer :: new) (b.answered op answer s) where
  toSince := h.toSince.answered hs
  clicks label hlabel := by
    rw [Journal.clicks_call, List.mem_append, Option.mem_toList] at hlabel
    exact hlabel.elim (h.clicks label) (hop label)
  turn := h.turn
  counted := by
    rw [Journal.events_call]
    exact h.counted

theorem Watched.noted (h : b₀.Watched new b) (he : ∀ turn, e ≠ .turnEnded turn) :
    b₀.Watched (.event e :: new) (b.noted e) where
  toSince := h.toSince.noted e
  clicks := by
    rw [Journal.clicks_event]
    exact h.clicks
  turn := h.turn
  counted turn hmem := by
    rw [Journal.events_event, List.mem_append, List.mem_singleton] at hmem
    exact hmem.elim (h.counted turn) fun heq => he turn heq.symm

/-- Asking for the attack button is one more poll. -/
theorem Polled.answered (h : Polled b₀ polls clock b) (op : ScreenOp)
    (hop : ∀ label, op.clicked? = some label → NamesNoTurn label)
    (hs : b.screen.perform? op = some (answer, s)) :
    Polled b₀ (polls ++ if op = .find "attack" then [b.screen] else []) clock
      (b.answered op answer s) := by
  obtain ⟨new, hnew, hpolls, hclock⟩ := h
  refine ⟨_, hnew.asked hop hs, ?_, Nat.le_trans hclock (Screen.perform?_now_le hs)⟩
  rw [Battle.pollsOf, Journal.ops_call, Screen.whenAsked_concat hnew.screen, ← hpolls]
  rfl

theorem Polled.earlier (h : Polled b₀ polls clock b) (hle : clock' ≤ clock) :
    Polled b₀ polls clock' b := by
  obtain ⟨new, hnew, hpolls, hclock⟩ := h
  exact ⟨new, hnew, hpolls, Nat.le_trans hle hclock⟩

theorem Polled.steady : Steady NamesNoTurn (Polled b₀ polls clock) where
  asked h hb := by
    cases h with
    | @mk op answer s b hop hs =>
      have hother : op ≠ .find "attack" := fun h => (hop "attack" (h ▸ rfl)).1 rfl
      have hanswered := hb.answered op (fun label hlabel => hop label (by cases op <;> trivial)) hs
      rwa [if_neg hother, List.append_nil] at hanswered
  noted he := by
    rintro ⟨new, hnew, hpolls, hclock⟩
    refine ⟨_, hnew.noted he, ?_, hclock⟩
    rw [Battle.pollsOf, Journal.ops_event]
    exact hpolls
  aimed _ := by
    rintro ⟨new, hnew, hpolls, hclock⟩
    exact ⟨new, { hnew with }, hpolls, hclock⟩
  kept hs hj _ ht := by
    rintro ⟨new, hnew, hpolls, hclock⟩
    exact ⟨new, ⟨hnew.toSince.kept hs hj, hnew.clicks, ht.trans hnew.turn, hnew.counted⟩, hpolls,
      hs ▸ hclock⟩

end Battle

namespace Play
open Battle

variable {b₀ : Battle} {polls : List Screen} {clock : Nat}

/-- A look for the input of a turn is a poll, and tells whether the screen offers a turn. -/
theorem seesTurn.offers : Triple (Polled b₀ polls clock) seesTurn
    (fun ready b => ∃ s, ready = s.offersTurn ∧ Polled b₀ (polls ++ [s]) clock b)
    fun _ _ => False := by
  have attack : Triple (Polled b₀ polls clock) (look "attack")
      (fun found b => ∃ s, found.isSome = s.settle.isVisible "attack" ∧ b.screen = s.settle ∧
        Polled b₀ (polls ++ [s]) clock b) fun _ _ => False := by
    refine ⟨fun b hb => ?_⟩
    have hpolled := hb.answered (.find "attack") (fun _ h => by cases h) rfl
    rw [look_run]
    exact ⟨b.screen, Screen.isSome_find .., rfl, hpolled⟩
  apply Triple.bind attack
  intro found
  split
  · next h =>
    refine .pure fun b ⟨s, hseen, _, hb⟩ => ⟨s, ?_, hb⟩
    rw [Screen.offersTurn, ← hseen, h, Bool.true_or]
  · next h =>
    have next : Triple (fun b => ∃ s, found.isSome = s.settle.isVisible "attack" ∧
          b.screen = s.settle ∧ Polled b₀ (polls ++ [s]) clock b) (look "next")
        (fun found b => ∃ s, found.isSome = s.offersTurn ∧ Polled b₀ (polls ++ [s]) clock b)
        fun _ _ => False := by
      refine ⟨fun b ⟨s, hseen, hscreen, hb⟩ => ?_⟩
      have hpolled := hb.answered (.find "next") (fun _ h => by cases h) rfl
      rw [if_neg (by decide), List.append_nil] at hpolled
      rw [look_run]
      refine ⟨s, ?_, hpolled⟩
      -- the first look has settled the screen
      rw [Screen.isSome_find, hscreen, s.settle_settled.settle_eq, Screen.offersTurn, ← hseen,
        eq_false_of_ne_true h, Bool.false_or]
    exact .bind next fun found => .pure fun b hb => hb

theorem wait.polled (d : Span) : Triple (Polled b₀ polls clock) (wait d)
    (fun _ => Polled b₀ polls (clock + d.nanos)) fun _ => Polled b₀ polls clock := by
  refine .of_eq fun b hb => ?_
  have keeps : Triple (· = b) (wait d) (fun _ => Polled b₀ polls clock)
      fun _ => Polled b₀ polls clock :=
    (wait.keeps Polled.steady d).mono_start fun _ h => h ▸ hb
  apply (keeps.both (wait.passes d b)).conseq
  · exact fun _ h => ⟨h, h⟩
  · rintro _ b' ⟨⟨new, hnew, hpolls, -⟩, -, hnow⟩
    obtain ⟨_, -, -, hclock⟩ := hb
    exact ⟨new, hnew, hpolls, hnow ▸ Nat.add_le_add_right hclock _⟩
  · exact fun _ _ h => h.1

end Play

namespace Battle

/-- What watching automation comes to, where `total` polls are allowed and take until `late`. -/
inductive Credited (b₀ : Battle) (total late : Nat) : Bool → Battle → Prop
  | played (h : Polled b₀ polls 0 b) (hn : polls.length ≤ total) (ht : TurnPlayed polls) :
    Credited b₀ total late true b
  | idle (h : Polled b₀ polls late b) (hn : polls.length = total) (ht : ¬ TurnPlayed polls) :
    Credited b₀ total late false b

/-- Where watching may stop. -/
def Watching (b₀ : Battle) (total : Nat) (b : Battle) : Prop :=
  ∃ polls, polls.length ≤ total ∧ Polled b₀ polls 0 b

end Battle

namespace Play
open Battle

variable {b₀ : Battle} {polls : List Screen} {clock total late : Nat}

theorem Keeps.watching {m : Play α} (hm : Keeps (Polled b₀ polls clock) m)
    (hn : polls.length ≤ total) : Triple (Polled b₀ polls clock) m
      (fun _ => Polled b₀ polls clock) fun _ => Watching b₀ total :=
  hm.mono_halt fun _ _ hb => ⟨polls, hn, hb.earlier (Nat.zero_le clock)⟩

/-- The turn was left if its input was away at some poll, and no turn was played yet. -/
theorem awaitAutoTurn.credits (cfg : Settings) (looks : Nat) (hnever : ¬ TurnPlayed polls)
    (htotal : polls.length + looks = total)
    (hlate : clock + looks * cfg.retry.pollInterval.nanos = late) :
    Triple (Polled b₀ polls clock) (awaitAutoTurn cfg looks (turnLeft polls))
      (Credited b₀ total late) fun _ => Watching b₀ total := by
  induction looks generalizing polls clock with
  | zero =>
    rw [Nat.zero_mul, Nat.add_zero] at hlate
    exact .pure fun b hb => .idle (hlate ▸ hb) htotal hnever
  | succ looks ih =>
    have hmore : polls.length + 1 ≤ total := by omega
    have check := check.keeps cfg (P := Polled b₀ polls clock) Polled.steady (by decide)
    apply Triple.bind (Keeps.watching check (Nat.le_of_succ_le hmore))
    intro _
    apply Triple.bind (seesTurn.offers.mono_halt fun _ _ => False.elim)
    intro ready
    refine .of_eq fun b ⟨s, hready, hb⟩ => .mono_start ?_ fun _ h => h ▸ hb
    subst hready
    have hlength : (polls ++ [s]).length ≤ total := by simpa using hmore
    split
    · next hback =>
      rw [Bool.and_eq_true, and_comm] at hback
      refine .pure fun b hb => .played (hb.earlier (Nat.zero_le clock)) hlength ?_
      exact turnPlayed_concat.2 (.inr hback)
    · next hback =>
      have hstill : ¬ TurnPlayed (polls ++ [s]) := by
        rw [turnPlayed_concat]
        rintro (hplayed | ⟨hleft, hoffers⟩)
        · exact hnever hplayed
        · exact hback (by rw [hleft, hoffers]; rfl)
      have again : Triple (Polled b₀ (polls ++ [s]) clock) (do
          wait cfg.retry.pollInterval
          awaitAutoTurn cfg looks (turnLeft polls || !s.offersTurn))
          (Credited b₀ total late) fun _ => Watching b₀ total := by
        rw [← turnLeft_concat]
        apply Triple.bind ((wait.polled _).mono_halt fun _ _ hb =>
          ⟨_, hlength, hb.earlier (Nat.zero_le clock)⟩)
        intro _
        apply ih hstill
        · rw [List.length_append, List.length_singleton]
          omega
        · rw [← hlate, Nat.succ_mul]
          omega
      dsimp only
      split
      · have dismiss := dismissDialogs.keeps (P := Polled b₀ (polls ++ [s]) clock)
          Polled.steady (by decide)
        have wipe := wipeCheck.keeps cfg (P := Polled b₀ (polls ++ [s]) clock)
          Polled.steady (by decide)
        apply Triple.bind (Keeps.watching dismiss hlength)
        intro _
        exact .bind (Keeps.watching wipe.discard hlength) fun _ => again
      · exact again

/-- How watching automation ends for an account of the polls. -/
inductive AwaitsTurn (cfg : Settings) (b : Battle) (polls : List Screen) :
    Except Halt Bool × Battle → Prop
  | played (h : TurnPlayed polls) : AwaitsTurn cfg b polls (.ok true, b')
  | idle (h : ¬ TurnPlayed polls) (hpolls : polls.length = 60)
      (hclock : b.screen.now.nanos + 60 * cfg.retry.pollInterval.nanos ≤ b'.screen.now.nanos) :
    AwaitsTurn cfg b polls (.ok false, b')
  | halted (h : halt ≠ .unfinished) : AwaitsTurn cfg b polls (.error halt, b')

/-- Automation is credited with a turn only if it played one in the polls, which are 60 at most. If
it is not, it played none in all of them, which take their time. Nobody clicks the buttons of a turn
meanwhile, and no turn is counted. -/
theorem awaitAutoTurn_credits (cfg : Settings) (b : Battle) :
    ∃ new, b.Watched new ((awaitAutoTurn cfg autoTurnLooks false).run.run b).2 ∧
      (b.pollsOf new).length ≤ 60 ∧
      AwaitsTurn cfg b (b.pollsOf new) ((awaitAutoTurn cfg autoTurnLooks false).run.run b) := by
  have finishes : Finishes (awaitAutoTurn cfg autoTurnLooks false) :=
    .of_orderly (awaitAutoTurn.orderly cfg _ _)
  have hstart : Polled b [] b.screen.now.nanos b :=
    ⟨[], ⟨.refl b, nofun, rfl, nofun⟩, rfl, Nat.le_refl _⟩
  have hnever : ¬ TurnPlayed [] := by
    rintro ⟨away, back, hsub, -⟩
    cases hsub
  have credits : Triple (Polled b [] b.screen.now.nanos) (awaitAutoTurn cfg autoTurnLooks false)
      (Credited b 60 (b.screen.now.nanos + 60 * cfg.retry.pollInterval.nanos))
      fun _ => Watching b 60 :=
    awaitAutoTurn.credits cfg autoTurnLooks hnever rfl rfl
  rcases hrun : (awaitAutoTurn cfg autoTurnLooks false).run.run b with ⟨halt | played, b'⟩
  · obtain ⟨polls, hn, new, hnew, rfl, -⟩ := credits.of_error hstart hrun
    exact ⟨new, hnew, hn, .halted (finishes.of_error trivial hrun)⟩
  · cases credits.of_ok hstart hrun with
    | played h hn ht =>
      obtain ⟨new, hnew, rfl, -⟩ := h
      exact ⟨new, hnew, hn, .played ht⟩
    | idle h hn ht =>
      obtain ⟨new, hnew, rfl, hclock⟩ := h
      exact ⟨new, hnew, Nat.le_of_eq hn, .idle ht hn hclock⟩

end Play
end BattlePilot
