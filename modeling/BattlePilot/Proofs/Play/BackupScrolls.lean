import BattlePilot.Battle.Fight
import BattlePilot.Proofs.Play.Sampling

/-! How far the page is scrolled when help is asked for. The request scrolls down after each search
for the button in vain, and up by one amount in the end, whatever it scrolled down. Asking by way of
a social network scrolls up by what it scrolled down. -/

namespace BattlePilot

/-- How far an operation scrolls the page; down is negative. -/
def ScreenOp.scrolled : ScreenOp → Int
  | input (.scroll _ amount) => amount
  | _ => 0

/-- How far the page was scrolled in all. -/
def Journal.scrolled : Journal → Int
  | [] => 0
  | .call _ op _ :: j => op.scrolled + scrolled j
  | .event _ :: j => scrolled j

theorem ScreenOp.Presses.scrolled {op : ScreenOp} (h : op.Presses name) : op.scrolled = 0 := by
  cases op with
  | input i =>
    cases i with
    | scroll => cases h
    | _ => rfl
  | _ => rfl

namespace Screen

/-- So many searches for the button of the request in vain, each one followed by a scroll. -/
inductive InVain (pause : Span) (anchor : Point) (s₀ : Screen) : Nat → Screen → Prop
  | start : InVain pause anchor s₀ 0 s₀
  | again (h : InVain pause anchor s₀ k s)
      (hmissed : s.ClickTried pause "request_backup" 5 false s₁)
      (hscroll : s₁.receive? (.scroll anchor (-200)) = some s') : InVain pause anchor s₀ (k + 1) s'

/-- What comes of looking for the button of the request, where so many searches are made at most:
it is clicked after some in vain, or never found. -/
inductive BackupSought (pause : Span) (anchor : Point) (s₀ : Screen) (tries : Nat) :
    (vain : Nat) → Bool → Screen → Prop
  | clicked (hk : k < tries) (h : s₀.InVain pause anchor k s)
      (hclick : s.ClickTried pause "request_backup" 5 true s') :
    BackupSought pause anchor s₀ tries k true s'
  | missed (h : s₀.InVain pause anchor tries s) : BackupSought pause anchor s₀ tries tries false s

theorem BackupSought.vain_lt {s₀ : Screen} (h : s₀.BackupSought pause anchor tries k true s) :
    k < tries := by
  cases h with
  | clicked hk => exact hk

theorem BackupSought.vain_eq {s₀ : Screen} (h : s₀.BackupSought pause anchor tries k false s) :
    k = tries := by
  cases h
  rfl

end Screen

namespace Battle

/-- Since `b₀` these events were noted and the page was scrolled so far. -/
structure Scrolls (b₀ : Battle) (events : List Event) (amount : Int) (b : Battle) : Prop where
  state : b.state = b₀.state
  told : ∃ new, b₀.Since new b ∧ new.events = events ∧ new.scrolled = amount

namespace Scrolls

variable {b₀ b : Battle} {events : List Event} {amount : Int}

theorem refl (b : Battle) : b.Scrolls [] 0 b := ⟨rfl, [], .refl b, rfl, rfl⟩

theorem answered (h : b₀.Scrolls events amount b)
    (hs : b.screen.perform? op = some (answer, s)) :
    b₀.Scrolls events (op.scrolled + amount) (b.answered op answer s) := by
  obtain ⟨new, hnew, hevents, rfl⟩ := h.told
  exact ⟨h.state, _, hnew.answered hs, (Journal.events_call ..).trans hevents, rfl⟩

theorem noted (h : b₀.Scrolls events amount b) (e : Event) :
    b₀.Scrolls (events ++ [e]) amount (b.noted e) := by
  obtain ⟨new, hnew, rfl, hscrolled⟩ := h.told
  exact ⟨h.state, _, hnew.noted e, Journal.events_event .., hscrolled⟩

end Scrolls

/-- What is noted of a request that was sent. -/
def Answered (b : Battle) (events : List Event) : Prop :=
  events = [] ∨ events = [.recovered b.state.currentTurn .backupOnCooldown]

/-- What comes of the request: where the button was found and how far the page was scrolled. Where
it is not found, only that is noted. A number may leave its range before the page is scrolled
back. -/
inductive RequestsBackup (cfg : Settings) (b : Battle) : Except Halt Unit × Battle → Prop
  | asked (hsought : b.screen.BackupSought cfg.retry.pollInterval b.anchor 5 vain true s)
      (hevents : b.Answered events) (hscrolls : b.Scrolls events (400 - 200 * vain) b') :
    RequestsBackup cfg b (.ok (), b')
  | failed (hsought : b.screen.BackupSought cfg.retry.pollInterval b.anchor 5 5 false s)
      (hscrolls : b.Scrolls [.recovered b.state.currentTurn .backupFailed] (-600) b') :
    RequestsBackup cfg b (.ok (), b')
  | overflow {vain : Nat} (hk : vain < 5) (hscrolls : b.Scrolls events (-200 * vain) b') :
    RequestsBackup cfg b (.error .overflow, b')

/-- What comes of asking by way of a social network, which scrolls back what it scrolled. -/
inductive TweetsBackup (b : Battle) : Except Halt Unit × Battle → Prop
  | asked (hevents : b.Answered events) (hscrolls : b.Scrolls events 0 b') :
    TweetsBackup b (.ok (), b')
  | overflow (hscrolls : b.Scrolls events (-400) b') : TweetsBackup b (.error .overflow, b')

end Battle

namespace Play
open Battle

variable (cfg : Settings) {b₀ : Battle} {events : List Event} {amount : Int}

/-- Who does not scroll leaves the page where it is. -/
theorem Within.scrolls {m : Play α} (hm : Within (Ask (·.scrolled = 0)) m) :
    Triple (b₀.Scrolls events amount) m (fun _ => b₀.Scrolls events amount)
      fun halt b => halt = .overflow ∧ b₀.Scrolls events amount b := by
  apply hm.keeps
  intro b b' ha h
  cases ha with
  | mk hop hs =>
    have h := h.answered hs
    rwa [hop, Int.zero_add] at h

theorem scroll.scrolls (position : Point) (d : Int) :
    Triple (b₀.Scrolls events amount) (scroll position d)
      (fun _ => b₀.Scrolls events (d + amount)) fun _ _ => False := by
  refine ⟨fun b h => ?_⟩
  have hs : b.screen.perform? (.input (.scroll position d)) = some (.nothing, _) := rfl
  exact h.answered hs

theorem setback.scrolls (s : Setback) :
    Triple (b₀.Scrolls events amount) (setback s)
      (fun _ => b₀.Scrolls (events ++ [.recovered b₀.state.currentTurn s]) amount)
      fun _ _ => False :=
  ⟨fun _ h => h.state ▸ h.noted _⟩

theorem findAndClick.still (name : String) (tries : Nat) :
    Within (Ask (·.scrolled = 0)) (findAndClick cfg name tries) :=
  (findAndClick.asks cfg tries).mono fun _ _ ha => ha.mono fun _ => ScreenOp.Presses.scrolled

theorem press.still (name : String) : Within (Ask (·.scrolled = 0)) (press cfg name) :=
  .discard (findAndClick.still cfg name usualTries)

/-! ### Looking for the button -/

theorem seekBackup.scrolls (anchor : Point) (k tries : Nat) :
    Triple (fun b => b₀.screen.InVain cfg.retry.pollInterval anchor k b.screen ∧
        b₀.Scrolls [] (-200 * k) b) (seekBackup cfg anchor tries)
      (fun found b => ∃ vain, b₀.screen.BackupSought cfg.retry.pollInterval anchor (k + tries) vain
        found b.screen ∧ b₀.Scrolls [] (-200 * vain) b)
      fun halt b => halt = .overflow ∧ ∃ vain < k + tries, b₀.Scrolls [] (-200 * vain) b := by
  induction tries generalizing k with
  | zero => exact .pure fun b h => ⟨k, .missed h.1, h.2⟩
  | succ tries ih =>
    refine .of_eq fun b ⟨hvain, hscrolls⟩ => ?_
    have search : Triple (· = b) (findAndClick cfg "request_backup" usualTries)
        (fun found b' => b₀.Scrolls [] (-200 * k) b' ∧
          b.screen.ClickTried cfg.retry.pollInterval "request_backup" 5 found b'.screen)
        fun halt b' => halt = .overflow ∧ ∃ vain < k + (tries + 1),
          b₀.Scrolls [] (-200 * vain) b' := by
      apply ((findAndClick.still cfg "request_backup" usualTries).scrolls.both
        (findAndClick.samples cfg "request_backup" usualTries b)).conseq
      · rintro _ rfl
        exact ⟨hscrolls, rfl⟩
      · exact fun _ _ h => h
      · exact fun _ _ h => ⟨h.2, k, Nat.lt_add_of_pos_right (Nat.succ_pos tries), h.1.2⟩
    refine .bind search fun found => ?_
    cases found with
    | true =>
      refine .pure fun b' h => ⟨k, .clicked ?_ hvain h.2, h.1⟩
      exact Nat.lt_add_of_pos_right (Nat.succ_pos tries)
    | false =>
      have again := ih (k + 1)
      rw [Nat.add_assoc, Nat.add_comm 1] at again
      refine .bind ?_ fun _ => again
      refine .of_eq fun b₁ ⟨hscrolls, hmissed⟩ => ?_
      apply ((scroll.scrolls anchor (-200)).both (send.receives (.scroll anchor (-200)) b₁)).conseq
      · rintro _ rfl
        exact ⟨hscrolls, rfl⟩
      · rintro _ b₂ ⟨h, hscroll⟩
        have hsum : (-200 : Int) * (k + 1 : Nat) = -200 + -200 * k := by omega
        exact ⟨.again hvain hmissed hscroll, hsum ▸ h⟩
      · exact fun _ _ h => h.1.elim

/-! ### The two requests -/

/-- A course that sends a request and scrolls up in the end, if it comes to that. -/
def Concludes (b₀ : Battle) (amount : Int) (m : Play Unit) : Prop :=
  Triple (b₀.Scrolls [] amount) m
    (fun _ b => ∃ events, b₀.Answered events ∧ b₀.Scrolls events (400 + amount) b)
    fun halt b => halt = .overflow ∧ ∃ events, b₀.Scrolls events amount b

theorem Concludes.after {m : Play α} {f : α → Play Unit} (hm : Within (Ask (·.scrolled = 0)) m)
    (hf : ∀ a, Concludes b₀ amount (f a)) : Concludes b₀ amount (m >>= f) :=
  .bind (hm.scrolls.mono_halt fun _ _ h => ⟨h.1, _, h.2⟩) hf

theorem concludeBackup.concludes (success : String) (anchor : Point) :
    Concludes b₀ amount (concludeBackup cfg success anchor) := by
  have ask : Within (Ask (·.scrolled = 0)) (confirm cfg success usualTries) :=
    confirm.asks (A := (·.scrolled = 0)) cfg rfl (fun _ => rfl) _
  have close {events : List Event} (hevents : b₀.Answered events) (name : String) :
      Triple (b₀.Scrolls events amount) (do
          press cfg name
          scroll anchor 400)
        (fun _ b => ∃ events, b₀.Answered events ∧ b₀.Scrolls events (400 + amount) b)
        fun halt b => halt = .overflow ∧ ∃ events, b₀.Scrolls events amount b := by
    refine .bind ((press.still cfg name).scrolls.mono_halt fun _ _ h => ⟨h.1, _, h.2⟩) fun _ => ?_
    apply (scroll.scrolls anchor 400).conseq (fun _ h => h)
    · exact fun _ _ h => ⟨events, hevents, h⟩
    · exact fun _ _ => False.elim
  refine .after ask fun granted => ?_
  split
  · exact close (.inl rfl) "ok"
  · refine .bind ((setback.scrolls _).mono_halt fun _ _ => False.elim) fun _ => ?_
    exact close (.inr rfl) "cancel"

/-- The request once its button was clicked. -/
theorem Concludes.requests {b : Battle} {vain : Nat} {m : Play Unit}
    (hm : Concludes b (-200 * vain) m) (hk : vain < 5)
    (hsought : b.screen.BackupSought cfg.retry.pollInterval b.anchor 5 vain true s) :
    Triple (b.Scrolls [] (-200 * vain)) m (fun _ b' => RequestsBackup cfg b (.ok (), b'))
      fun halt b' => RequestsBackup cfg b (.error halt, b') := by
  apply hm.conseq (fun _ h => h)
  · rintro _ b' ⟨events, hevents, hscrolls⟩
    have hsum : 400 + -200 * (vain : Int) = 400 - 200 * vain := by omega
    exact .asked hsought hevents (hsum ▸ hscrolls)
  · rintro _ b' ⟨rfl, events, hscrolls⟩
    exact .overflow hk hscrolls

theorem requestBackup.requests (b : Battle) :
    Triple (· = b) (requestBackup cfg) (fun _ b' => RequestsBackup cfg b (.ok (), b'))
      fun halt b' => RequestsBackup cfg b (.error halt, b') := by
  refine .get_bind fun b' h => ?_
  subst h
  have start : b'.screen.InVain cfg.retry.pollInterval b'.anchor 0 b'.screen ∧
      b'.Scrolls [] (-200 * 0) b' := ⟨.start, .refl b'⟩
  have seek : Triple (· = b') (seekBackup cfg b'.anchor 5)
      (fun found b => ∃ vain, b'.screen.BackupSought cfg.retry.pollInterval b'.anchor 5 vain
        found b.screen ∧ b'.Scrolls [] (-200 * vain) b)
      fun halt b => RequestsBackup cfg b' (.error halt, b) := by
    apply (@seekBackup.scrolls cfg b' b'.anchor 0 5).conseq
    · exact fun _ h => h ▸ start
    · exact fun _ _ h => h
    · rintro _ b ⟨rfl, vain, hvain, h⟩
      exact .overflow hvain h
  have pause : Within (Ask (·.scrolled = 0)) (wait (.ofSeconds 1)) := wait.asks rfl
  have popup : Within (Ask (·.scrolled = 0)) (find cfg "cancel" usualTries) :=
    find.asks (A := (·.scrolled = 0)) cfg rfl (fun _ => rfl) _
  refine .bind seek fun found => .of_eq fun b₁ ⟨vain, hsought, hscrolls⟩ => ?_
  cases found with
  | true =>
    refine (Concludes.requests cfg ?_ hsought.vain_lt hsought).mono_start fun _ h => h ▸ hscrolls
    have rest : Concludes b' (-200 * vain) (do
        wait (.ofSeconds 1)
        concludeBackup cfg "request_backup_success" b'.anchor) :=
      .after pause fun _ => concludeBackup.concludes cfg _ _
    refine .after pause fun _ => .after popup fun cancel => ?_
    cases cancel with
    | some cancel => exact .after (beside.within _ _) fun _ => .after (send.asks rfl) fun _ => rest
    | none => exact rest
  | false =>
    obtain rfl := hsought.vain_eq
    refine .bind (((setback.scrolls _).mono_start fun _ h => h ▸ hscrolls).mono_halt
      fun _ _ => False.elim) fun _ => ?_
    apply (scroll.scrolls b'.anchor 400).conseq (fun _ h => h)
    · exact fun _ _ hscrolls => .failed hsought hscrolls
    · exact fun _ _ => False.elim

theorem Concludes.tweets {b : Battle} {m : Play Unit} (hm : Concludes b (-400) m) :
    Triple (b.Scrolls [] (-400)) m (fun _ b' => TweetsBackup b (.ok (), b'))
      fun halt b' => TweetsBackup b (.error halt, b') := by
  apply hm.conseq (fun _ h => h)
  · rintro _ b' ⟨events, hevents, hscrolls⟩
    exact .asked hevents hscrolls
  · rintro _ b' ⟨rfl, events, hscrolls⟩
    exact .overflow hscrolls

theorem tweetBackup.tweets (b : Battle) :
    Triple (· = b) (tweetBackup cfg) (fun _ b' => TweetsBackup b (.ok (), b'))
      fun halt b' => TweetsBackup b (.error halt, b') := by
  refine .get_bind fun b' h => ?_
  subst h
  have pause : Within (Ask (·.scrolled = 0)) (wait (.ofSeconds 1)) := wait.asks rfl
  have down : Triple (b'.Scrolls [] 0) (scroll b'.anchor (-400)) (fun _ => b'.Scrolls [] (-400))
      fun halt b => TweetsBackup b' (.error halt, b) :=
    (scroll.scrolls b'.anchor (-400)).mono_halt fun _ _ => False.elim
  refine .bind (down.mono_start fun _ h => h ▸ .refl b') fun _ => Concludes.tweets ?_
  refine .after (press.still cfg _) fun _ => .after pause fun _ => ?_
  refine .after (press.still cfg _) fun _ => .after (press.still cfg _) fun _ => ?_
  exact .after pause fun _ => concludeBackup.concludes cfg _ _

/-- The request takes two of its scrolls down back, however many it made, so that the page stays
scrolled down unless the button is found in the first three searches. Asking by way of a social
network leaves the page where it was. -/
theorem backup_scrolls (cfg : Settings) (b : Battle) :
    RequestsBackup cfg b ((requestBackup cfg).run.run b) ∧
      TweetsBackup b ((tweetBackup cfg).run.run b) :=
  ⟨(requestBackup.requests cfg b).result, (tweetBackup.tweets cfg b).result⟩

/-- The button is never found: five scrolls down, and two of them taken back. -/
theorem backup_leftDown :
    let screen := Screen.ofScenario { visible := ["attack"] }
    let course := (requestBackup {}).run.run (.start screen)
    let f := Fight.run {} 10 ["requestbackup", "exit"] screen
    course.1.isOk = true ∧ course.2.journal.scrolled = -600 ∧
    f.journal.events = [.dispatched 1 (.requestBackup false), .recovered 1 .backupFailed,
      .dispatched 1 .exit, .ended 1 .noLoot] ∧
    f.journal.scrolled = -600 := by
  refine ⟨?_, ?_, ?_, ?_⟩
  · decide +kernel
  · decide +kernel
  · decide +kernel
  · decide +kernel

end Play
end BattlePilot
