import BattlePilot.Proofs.Play.Aside

/-! The order of what is done in a battle. `Ordered` is a grammar of journals: once a turn has been
counted nothing is done before an end is looked for, a command is counted right after such a look,
and whoever clicks the attack button does not click it again before the turn is counted or it is
known whether automation plays. A course is `Orderly` if it keeps its journal in that order whatever
comes of it; `Stops` says how the journal may end where the course halts. -/

namespace BattlePilot

/-! ### Kinds of entries -/

/-- Whether the attack button is clicked. -/
def ScreenOp.strikes : ScreenOp → Bool
  | input i => i.label? == some "attack"
  | _ => false

theorem ScreenOp.Seeks.not_strikes {op : ScreenOp} (h : op.Seeks name) : op.strikes = false := by
  cases op with
  | find | sleep => rfl
  | _ => cases h

theorem ScreenOp.Light.not_strikes {op : ScreenOp} (h : op.Light (· ≠ "attack")) :
    op.strikes = false := by
  have other (label : String) (hl : isWeighty label = false ∨ label ≠ "attack") :
      (some label == some "attack") = false := by
    rw [beq_eq_false_iff_ne]
    intro heq
    cases heq
    rcases hl with hl | hl
    · exact absurd hl (by decide)
    · exact hl rfl
  cases op with
  | input i =>
    cases i with
    | click label | doubleClick label => exact other label h
    | _ => rfl
  | _ => rfl

namespace Event

/-- Whether it does not matter when the event comes, but for a look that is due. -/
def isRemark : Event → Bool
  | turnStarted _ | turnEnded _ | dispatched .. | ended .. => false
  | _ => true

/-- Whether the event tells if automation could be turned on. -/
def tellsAuto : Event → Bool
  | autoModeChanged .. | recovered _ .autoUnavailable => true
  | _ => false

end Event

namespace Entry

/-- An operation in `A` was asked. -/
def Asks (A : ScreenOp → Prop) : Entry → Prop
  | call _ op _ => A op
  | event _ => False

theorem Asks.event? {e : Entry} (h : e.Asks A) : e.event? = none := by
  cases e with
  | call => rfl
  | event => exact h.elim

end Entry

theorem Battle.Asks.entries (h : Asks A b b') :
    ∃ later, b'.journal = later ++ b.journal ∧ ∀ e ∈ later, e.Asks A := by
  induction h with
  | refl => exact ⟨[], rfl, nofun⟩
  | tail _ h ih =>
    obtain ⟨later, hj, hlater⟩ := ih
    cases h with
    | @mk op answer s _ hop _ =>
      refine ⟨.call s.now op answer :: later, ?_, List.forall_mem_cons.2 ⟨hop, hlater⟩⟩
      rw [Battle.answered, hj, List.cons_append]

/-! ### Looking for an end -/

/-- The answers of a whole look for an end, the newest first, by what the look finds. That the time
is used up or the battle was left is found without asking. -/
inductive Answers : Option Outcome → List (String × Bool) → Prop
  | timeExceeded : Answers (some .timeExceeded) []
  | left : Answers (some .noLoot) []
  | noLoot : Answers (some .noLoot) [("no_loot", true)]
  | battleConcluded :
    Answers (some .battleConcluded) [("battle_concluded", true), ("no_loot", false)]
  | expGained : Answers (some .expGained)
      [("exp_gained", true), ("battle_concluded", false), ("no_loot", false)]
  | lootCollected : Answers (some .lootCollected)
      [("loot_collected", true), ("exp_gained", false), ("battle_concluded", false),
        ("no_loot", false)]
  | nothing : Answers none
      [("loot_collected", false), ("exp_gained", false), ("battle_concluded", false),
        ("no_loot", false)]

/-- What a look for an end leaves in the journal. -/
def Journal.ofLook (clock : Span) (answers : List (String × Bool)) : Journal :=
  answers.map fun a => .call clock (.confirm a.1) (.truth a.2)

/-- What pressing the reload button leaves in the journal: looks for it, and one click at most, as
the last thing. -/
inductive Dismissal : Journal → Prop
  | missed (h : ∀ e ∈ looks, e.Asks (ScreenOp.Seeks "reload")) : Dismissal looks
  | clicked (h : ∀ e ∈ looks, e.Asks (ScreenOp.Seeks "reload")) :
    Dismissal (.call clock (.input (.click "reload" p)) answer :: looks)

theorem Journal.event_not_mem_ofLook {e : Event} : .event e ∉ ofLook clock answers := by
  intro h
  obtain ⟨a, -, ha⟩ := List.mem_map.1 h
  cases ha

theorem Dismissal.event_not_mem {e : Event} (h : Dismissal d) : .event e ∉ d := by
  have looks_asks {looks : Journal} (h : ∀ e ∈ looks, e.Asks (ScreenOp.Seeks "reload")) :
      .event e ∉ looks := fun hmem => h _ hmem
  cases h with
  | missed h => exact looks_asks h
  | clicked h =>
    rw [List.mem_cons]
    rintro (h' | hmem)
    · cases h'
    · exact looks_asks h hmem

/-- An entry that is not among the newest ones is among those before. -/
theorem Journal.split_of_not_mem {new j later earlier : Journal} {e : Entry} (he : e ∉ new)
    (h : new ++ j = later ++ e :: earlier) :
    ∃ more, later = new ++ more ∧ j = more ++ e :: earlier := by
  rcases List.append_eq_append_iff.1 h with ⟨more, hlater, hj⟩ | ⟨more, hnew, hcons⟩
  · exact ⟨more, hlater, hj⟩
  · cases more with
    | nil =>
      rw [List.append_nil] at hnew
      exact ⟨[], by rw [hnew, List.append_nil], hcons.symm⟩
    | cons e' more =>
      cases hcons
      exact absurd (by rw [hnew]; simp) he

/-! ### The grammar -/

/-- What may come next. -/
inductive Phase where
  | free
  /-- A turn may have been submitted that is not counted yet. -/
  | struck
  /-- An end has to be looked for. -/
  | due

namespace Phase

def isDue : Phase → Bool
  | due => true
  | _ => false

/-- The phase once the attack button was clicked, or was not there. -/
def ofClick : Bool → Phase
  | true => struck
  | false => free

end Phase

/-- What may be in a journal besides. -/
structure Licence where
  /-- A turn that was submitted need not be counted. -/
  givesUp : Prop
  /-- The block of a turn may be opened. -/
  opens : Prop

namespace Licence

/-- What a fight may do. -/
def full : Licence := ⟨True, True⟩

/-- What the script may do. -/
def scripted : Licence := ⟨False, True⟩

/-- What a course of the script may do that is not a marker. -/
def unmarked : Licence := ⟨False, False⟩

/-- What may be done once the script has run out. -/
def onward : Licence := ⟨True, False⟩

end Licence

/-- Journals that go on from `base` in order. -/
inductive Ordered (L : Licence) (base : Journal) : Phase → Journal → Prop
  | start : Ordered L base .free base
  | ready (h : Ordered L base .free j) : Ordered L base p j
  | gaveUp (hg : L.givesUp) (h : Ordered L base .struck j) : Ordered L base .due j
  | asked (hop : op.strikes = false) (hp : p.isDue = true → ∃ d, op = .sleep d)
      (h : Ordered L base p j) : Ordered L base p (.call clock op answer :: j)
  | remarked (he : e.isRemark = true) (hp : p.isDue = false) (h : Ordered L base p j) :
    Ordered L base p (.event e :: j)
  | opened (ho : L.opens) (h : Ordered L base .free j) :
    Ordered L base .free (.event (.turnStarted turn) :: j)
  | attacked (h : Ordered L base .free j) :
    Ordered L base .struck (.call clock (.input (.click "attack" q)) answer :: j)
  | told (he : e.tellsAuto = true) (h : Ordered L base .struck j) :
    Ordered L base .free (.event e :: j)
  | turnEnded (h : Ordered L base .struck j) :
    Ordered L base .due (.event (.turnEnded turn) :: j)
  | looked (ha : Answers none answers) (h : Ordered L base .due j) :
    Ordered L base .free (Journal.ofLook clock answers ++ j)
  | dispatched (ha : Answers none answers) (h : Ordered L base .due j) :
    Ordered L base .free
      (.event (.dispatched turn command) :: (Journal.ofLook clock answers ++ j))

/-- How a journal goes on from `base` where a look finds an end. -/
inductive EndFound (base : Journal) : Halt → Journal → Prop
  | ended (ha : Answers (some outcome) answers) (ho : outcome ≠ .battleConcluded) :
    EndFound base (.ended outcome) (Journal.ofLook clock answers ++ base)
  | dismissed (ha : Answers (some .battleConcluded) answers) (hd : Dismissal d)
      (hh : halt = .ended .battleConcluded ∨ halt = .overflow) :
    EndFound base halt (d ++ Journal.ofLook clock answers ++ base)

/-- Journals of courses that halt. -/
inductive Stops (L : Licence) (base : Journal) : Halt → Journal → Prop
  | overflow (h : Ordered L base p j) : Stops L base .overflow j
  | unfinished (hg : L.givesUp) (h : Ordered L base p j) : Stops L base .unfinished j
  | found (h : Ordered L base .due j) (hf : EndFound j halt j') : Stops L base halt j'
  /-- A raid moves on to the next battle. -/
  | movedOn (hg : L.givesUp) (h : Ordered L base .free j) :
    Stops L base (.ended .battleConcluded) j

namespace Ordered

variable {L : Licence} {base : Journal}

theorem grows (h : Ordered L base p j) : ∃ later, j = later ++ base := by
  induction h with
  | start => exact ⟨[], rfl⟩
  | ready _ ih | gaveUp _ _ ih => exact ih
  | asked _ _ _ ih | remarked _ _ _ ih | opened _ _ ih | attacked _ ih | told _ _ ih
  | turnEnded _ ih =>
    obtain ⟨later, rfl⟩ := ih
    exact ⟨_ :: later, rfl⟩
  | looked _ _ ih =>
    obtain ⟨later, rfl⟩ := ih
    exact ⟨_ ++ later, (List.append_assoc ..).symm⟩
  | dispatched _ _ ih =>
    obtain ⟨later, rfl⟩ := ih
    exact ⟨_ :: (_ ++ later), congrArg (_ :: ·) (List.append_assoc ..).symm⟩

end Ordered

theorem EndFound.grows (h : EndFound base halt j) : ∃ later, j = later ++ base := by
  cases h with
  | ended => exact ⟨_, rfl⟩
  | dismissed => exact ⟨_, rfl⟩

theorem Stops.grows (h : Stops L base halt j) : ∃ later, j = later ++ base := by
  cases h with
  | overflow h | unfinished _ h | movedOn _ h => exact h.grows
  | found h hf =>
    obtain ⟨earlier, rfl⟩ := h.grows
    obtain ⟨later, rfl⟩ := hf.grows
    exact ⟨later ++ earlier, (List.append_assoc ..).symm⟩

/-- A course that need not give up is not left unfinished. -/
theorem Stops.finished (hg : ¬ L.givesUp) (h : Stops L base halt j) : halt ≠ .unfinished := by
  cases h with
  | overflow => nofun
  | unfinished hg' | movedOn hg' => exact absurd hg' hg
  | found _ hf =>
    cases hf with
    | ended => nofun
    | dismissed _ _ hh => rcases hh with rfl | rfl <;> nofun

/-! ### Steps that may be taken at any time -/

namespace Battle

/-- One more entry at most, which does not strike and counts nothing. -/
inductive Apart : Battle → Battle → Prop
  | asked (h : Ask (·.strikes = false) b b') : Apart b b'
  | remarked (he : e.isRemark = true) (h : b'.journal = .event e :: b.journal) : Apart b b'
  | kept (h : b'.journal = b.journal) : Apart b b'

theorem Aside.apart (h : Aside (· ≠ "attack") b b') : Apart b b' := by
  cases h with
  | ask h => exact .asked (h.mono fun _ => ScreenOp.Light.not_strikes)
  | setback s => exact .remarked (e := .recovered b.state.currentTurn s) rfl rfl
  | reloaded reason => exact .remarked (e := .reloaded b.state.currentTurn reason) rfl rfl
  | aim => exact .kept rfl

theorem Apart.ordered (hp : p.isDue = false) (h : Apart b b')
    (hb : Ordered L base p b.journal) : Ordered L base p b'.journal := by
  cases h with
  | asked h =>
    cases h with
    | mk hop _ => exact hb.asked hop fun h => absurd (hp.symm.trans h) Bool.false_ne_true
  | remarked he h =>
    rw [h]
    exact hb.remarked he hp
  | kept h =>
    rw [h]
    exact hb

theorem Apart.ordered_many (hp : p.isDue = false) (h : Relation.ReflTransGen Apart b b')
    (hb : Ordered L base p b.journal) : Ordered L base p b'.journal := by
  induction h with
  | refl => exact hb
  | tail _ h ih => exact h.ordered hp ih

end Battle

/-! ### Orderly courses -/

namespace Play
open Battle

/-- A course that is begun in phase `p` and leads to phase `q`, and keeps the order. -/
def Orderly (L : Licence) (p : Phase) (m : Play α) (q : α → Phase) : Prop :=
  ∀ base, Triple (Ordered L base p ·.journal) m
    (fun a b => Ordered L base (q a) b.journal)
    fun halt b => Stops L base halt b.journal

variable {L : Licence} {p : Phase} {q : α → Phase} {r : β → Phase}

namespace Orderly

theorem pure (a : α) : Orderly L p (Pure.pure a : Play α) fun _ => p :=
  fun _ => .pure fun _ h => h

theorem bind {m : Play α} {f : α → Play β} (hm : Orderly L p m q)
    (hf : ∀ a, Orderly L (q a) (f a) r) : Orderly L p (m >>= f) r :=
  fun base => (hm base).bind fun a => hf a base

theorem discard {m : Play α} {p' : Phase} (hm : Orderly L p m fun _ => p') :
    Orderly L p (Functor.discard m) fun _ => p' :=
  fun base => (hm base).discard

/-- Where everything may be done, a course may begin in any phase. -/
theorem ready {m : Play α} (hm : Orderly L p m q) : Orderly L .free m q :=
  fun base => (hm base).mono_start fun _ h => h.ready

theorem widen {m : Play α} {q' : α → Phase} (hm : Orderly L p m q)
    (hq : ∀ a, q a = .free ∨ q a = q' a) : Orderly L p m q' := by
  refine fun base => (hm base).mono_value fun a _ h => ?_
  rcases hq a with hq | hq
  · rw [hq] at h
    exact h.ready
  · rwa [hq] at h

theorem get_bind {f : Battle → Play β} (hf : ∀ b, Orderly L p (f b) r) :
    Orderly L p (get >>= f) r :=
  fun base => .get_bind fun b hb => (hf b base).mono_start fun _ h => h ▸ hb

theorem turn_bind {f : Nat → Play β} (hf : ∀ n, Orderly L p (f n) r) :
    Orderly L p (currentTurn >>= f) r :=
  fun base => .turn_bind fun _ hb => (hf _ base).mono_start fun _ h => h ▸ hb

theorem apart (hp : p.isDue = false) {m : Play α} (hm : Within Apart m) :
    Orderly L p m fun _ => p := by
  refine fun base => .of_eq fun b hb => ?_
  refine (hm.entire b).conseq (fun _ h => h) (fun _ _ h => Apart.ordered_many hp h hb) ?_
  rintro _ b' ⟨rfl, h⟩
  exact .overflow (Apart.ordered_many hp h hb)

theorem quiet (hp : p.isDue = false) {m : Play α} (hm : Quiet (· ≠ "attack") m) :
    Orderly L p m fun _ => p :=
  .apart hp (hm.mono fun _ _ => Aside.apart)

/-- What only changes the state of the battle is not in the journal. -/
theorem modifyState (f : BattleState → BattleState) :
    Orderly L p (modifyState f) fun _ => p :=
  fun _ => .modify fun _ h => h

theorem grows {m : Play α} (hm : Orderly L p m q) (b : Battle) :
    Triple (· = b) m (fun _ b' => ∃ later, b'.journal = later ++ b.journal)
      fun _ b' => ∃ later, b'.journal = later ++ b.journal := by
  apply (hm b.journal).conseq
  · intro b' h
    subst h
    exact Ordered.start.ready
  · intro a b' h
    exact h.grows
  · intro halt b' h
    exact h.grows

theorem overflow : Orderly L p (throw .overflow : Play α) q :=
  fun _ => .halt fun _ h => .overflow h

theorem unfinished (hg : L.givesUp) : Orderly L p (throw .unfinished : Play α) q :=
  fun _ => .halt fun _ h => .unfinished hg h

end Orderly
end Play
end BattlePilot
