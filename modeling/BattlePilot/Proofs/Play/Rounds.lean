import BattlePilot.Proofs.Play.OrderedCommands
import BattlePilot.Proofs.Play.TakeoverCourses

/-! Rounds of playing on. Only the rounds that play on after the script may be used up, and a fight
that ends before they are ends in the same way with more of them. -/

namespace BattlePilot.Play
open Battle

/-! ### Courses that are not cut short -/

/-- A course that no want of rounds cuts short. -/
abbrev Finishes (m : Play α) : Prop :=
  Triple (fun _ => True) m (fun _ _ => True) fun halt _ => halt ≠ .unfinished

namespace Finishes

theorem bind {m : Play α} {f : α → Play β} (hm : Finishes m) (hf : ∀ a, Finishes (f a)) :
    Finishes (m >>= f) :=
  Triple.bind hm hf

theorem of_within {r : Battle → Battle → Prop} {m : Play α} (hm : Within r m) : Finishes m := by
  refine .of_eq fun b _ => (hm.entire b).conseq (fun _ h => h) (fun _ _ _ => trivial) ?_
  rintro _ _ ⟨rfl, -⟩
  nofun

theorem of_orderly {m : Play α} (hm : Orderly .scripted p m q) : Finishes m := by
  refine .of_eq fun b _ => (hm b.journal).conseq ?_ (fun _ _ _ => trivial) ?_
  · rintro _ rfl
    exact Ordered.start.ready
  · exact fun _ _ h => h.finished id

theorem discard {m : Play α} (hm : Finishes m) : Finishes (Functor.discard m) :=
  Triple.discard hm

end Finishes

variable (cfg : Settings)

theorem waitForAttack.finishes (tries : Nat) : Finishes (waitForAttack cfg tries) :=
  .of_within (waitForAttack.apart cfg tries)

theorem wipeCheck.finishes : Finishes (wipeCheck cfg) := .of_within (wipeCheck.apart cfg)

theorem finishTurn.finishes : Finishes finishTurn := .of_orderly finishTurn.orderly

theorem attackOnce.finishes : Finishes (attackOnce cfg) := by
  refine .bind (.of_within (findAndClick.asks cfg _)) fun clicked => ?_
  split
  · refine .bind (.of_within (settleAttack.quiet cfg (W := fun _ => True))) fun _ => ?_
    refine .bind (.of_within (reloadAfterAttack.quiet cfg (W := fun _ => True))) fun _ => ?_
    refine .bind (waitForAttack.finishes cfg _) fun resolved => ?_
    split
    · exact finishTurn.finishes
    · exact .pure fun _ _ => trivial
  · exact (wipeCheck.finishes cfg).discard

/-! ### Rounds -/

/-- Plays in rounds of one kind; an end is looked for before each of them. -/
def keepOn (round : Play Unit) : (rounds : Nat) → Play Empty
  | 0 => throw .unfinished
  | rounds + 1 => do
    check cfg
    pressNext cfg
    round
    wait cfg.retry.autoPoll
    keepOn round rounds

theorem watchAuto_eq (rounds : Nat) :
    watchAuto cfg rounds = keepOn cfg (discard (wipeCheck cfg)) rounds := by
  induction rounds with
  | zero => rfl
  | succ rounds ih => rw [watchAuto, keepOn, ih]

theorem attackOn_eq (rounds : Nat) : attackOn cfg rounds = keepOn cfg (attackOnce cfg) rounds := by
  induction rounds with
  | zero => rfl
  | succ rounds ih => rw [attackOn, keepOn, ih]

/-! ### More rounds -/

/-- Unless `m` is cut short for want of rounds, `m'` comes to the same. -/
def Extends (m m' : Play α) : Prop :=
  ∀ b, (m.run.run b).1 ≠ .error .unfinished → m'.run.run b = m.run.run b

namespace Extends

theorem refl (m : Play α) : Extends m m := fun _ _ => rfl

theorem bind {m : Play α} {f f' : α → Play β} (hf : ∀ a, Extends (f a) (f' a)) :
    Extends (m >>= f) (m >>= f') := by
  intro b h
  rw [ExceptT.run_bind, StateT.run_bind] at h ⊢
  rw [ExceptT.run_bind, StateT.run_bind]
  match m.run.run b, h with
  | (.ok a, b'), h => exact hf a b' h
  | (.error _, _), _ => rfl

end Extends

theorem keepOn.extends (round : Play Unit) (h : rounds ≤ rounds') :
    Extends (keepOn cfg round rounds) (keepOn cfg round rounds') := by
  induction rounds generalizing rounds' with
  | zero => exact fun _ hne => absurd rfl hne
  | succ rounds ih =>
    cases rounds' with
    | zero => cases h
    | succ rounds' =>
      refine .bind fun _ => .bind fun _ => .bind fun _ => .bind fun _ => ?_
      exact ih (Nat.le_of_succ_le_succ h)

theorem playOn.extends (h : rounds ≤ rounds') :
    Extends (playOn cfg rounds) (playOn cfg rounds') := by
  have attack : Extends (attackOn cfg rounds) (attackOn cfg rounds') := by
    rw [attackOn_eq, attackOn_eq]
    exact keepOn.extends cfg _ h
  have watch : Extends (watchAuto cfg rounds) (watchAuto cfg rounds') := by
    rw [watchAuto_eq, watchAuto_eq]
    exact keepOn.extends cfg _ h
  refine .bind fun _ => .bind fun moved => ?_
  split
  · exact .refl _
  · refine .bind fun b => ?_
    split
    · exact attack
    · refine .bind fun _ => .bind fun b => ?_
      split
      · exact watch
      · exact attack

theorem drive.extends (h : rounds ≤ rounds') (commands : List Command) :
    Extends (drive cfg rounds commands) (drive cfg rounds' commands) :=
  .bind fun _ => playOn.extends cfg h

/-- Wherever `m` comes to, `m'` comes there too and may go on. -/
def Prolongs (m m' : Play α) : Prop :=
  ∀ b, ∃ later, (m'.run.run b).2.journal = later ++ (m.run.run b).2.journal

namespace Prolongs

theorem refl (m : Play α) : Prolongs m m := fun _ => ⟨[], rfl⟩

theorem bind {m : Play α} {f f' : α → Play β} (hf : ∀ a, Prolongs (f a) (f' a)) :
    Prolongs (m >>= f) (m >>= f') := by
  intro b
  rw [ExceptT.run_bind, StateT.run_bind, ExceptT.run_bind, StateT.run_bind]
  match m.run.run b with
  | (.ok a, b') => exact hf a b'
  | (.error _, b') => exact ⟨[], rfl⟩

/-- What is cut short at once can be gone on from by any course. -/
theorem unfinished {m : Play Empty} (hm : Orderly .full p m fun _ => .free) :
    Prolongs (throw .unfinished) m := by
  intro b
  match hrun : m.run.run b with
  | (.ok never, _) => exact nomatch never
  | (.error halt, b') => exact (hm.grows b).of_error rfl hrun

end Prolongs

/-- With no rounds at all, playing on stops where the battle is taken over. -/
theorem playOn.prolongs (rounds : Nat) : Prolongs (playOn cfg 0) (playOn cfg rounds) := by
  have attack : Prolongs (attackOn cfg 0) (attackOn cfg rounds) :=
    .unfinished (attackOn.orderly cfg trivial rounds)
  have watch : Prolongs (watchAuto cfg 0) (watchAuto cfg rounds) :=
    .unfinished (watchAuto.orderly cfg trivial rounds)
  refine .bind fun _ => .bind fun moved => ?_
  split
  · exact .refl _
  · refine .bind fun b => ?_
    split
    · exact attack
    · refine .bind fun _ => .bind fun b => ?_
      split
      · exact watch
      · exact attack

theorem drive.prolongs (rounds : Nat) (commands : List Command) :
    Prolongs (drive cfg 0 commands) (drive cfg rounds commands) :=
  .bind fun _ => playOn.prolongs cfg rounds

end BattlePilot.Play
