import BattlePilot.Proofs.Fight.LooksForEnd
import BattlePilot.Proofs.Fight.Replayed

/-! How a fight is conducted. `Battle.Conduct` follows a fight from one thing that is done to the
next. It says what the pilot is about, which is the task, and how far a turn or an attempt at
automation has come, which is the stage; each of its cases has what is known where it is taken. A
property of all fights, wherever they stop, is therefore an induction over it. -/

namespace BattlePilot

/-- Commands that submit or skip a turn by hand. -/
def Command.isByHand : Command → Bool
  | byHand _ => true
  | _ => false

/-- The control that is looked for first where automation of a kind is to be turned on. -/
def AutoKind.control : AutoKind → String
  | full => "full_auto"
  | semi => "semi_auto_enabled"

namespace Entry

/-- Whether a turn is counted. -/
def endsTurn : Entry → Bool
  | event (.turnEnded _) => true
  | _ => false

/-- Whether the mode changes. -/
def changesMode : Entry → Bool
  | event (.autoModeChanged ..) => true
  | _ => false

/-- Whether a button is clicked that submits a turn or skips it. -/
def submits : Entry → Bool
  | call _ (.input (.click label _)) _ => label == "attack" || label == "home_back"
  | _ => false

/-- Whether an element is looked for that is not there. -/
def misses (name : String) : Entry → Bool
  | call _ (.find n) (.position none) => n == name
  | _ => false

def isPause (d : Span) : Entry → Bool
  | call _ (.sleep d') _ => d' == d
  | _ => false

/-- Whether an end is looked for and the first screen that would tell it is not there. -/
def looksOn : Entry → Bool
  | call _ (.confirm name) (.truth false) => name == "no_loot"
  | _ => false

end Entry

namespace Journal

/-- Whether the newest entries look for an element in vain, once and `more` times again after a
pause. -/
def sought (name : String) (pause : Span) : (more : Nat) → Journal → Bool
  | 0, e :: _ => e.misses name
  | more + 1, e :: e' :: j => e.misses name && e'.isPause pause && sought name pause more j
  | _, _ => false

/-- How often an end was looked for in the turn being played. -/
def looksInTurn : Journal → Nat
  | [] => 0
  | e :: j => if e.endsTurn then 0 else looksInTurn j + if e.looksOn then 1 else 0

/-- What an attempt at automation leaves in the journal; its control is looked for first. -/
def Attempts (kind : AutoKind) (tries : Journal) : Prop :=
  ∃ rest clock answer, tries = rest ++ [.call clock (.find kind.control) answer] ∧
    ∀ e ∈ rest, e.event? = none

theorem looksInTurn_le_append {new : Journal} (h : ∀ e ∈ new, e.endsTurn = false) (j : Journal) :
    j.looksInTurn ≤ looksInTurn (new ++ j) := by
  induction new with
  | nil => exact Nat.le_refl _
  | cons e new ih =>
    rw [List.forall_mem_cons] at h
    rw [List.cons_append, looksInTurn, h.1]
    exact Nat.le_add_right_of_le (ih h.2)

end Journal

/-- What a fight is fought with. -/
structure Setup where
  cfg : Settings
  screen : Screen
  /-- The commands of the script. -/
  script : List Command

/-! ### Tasks and stages -/

/-- What the pilot is about. -/
inductive Task where
  /-- The next command of the script is read. -/
  | reading
  | playing (command : Command)
  /-- A marker, where the commands `played` were played before it. -/
  | marker (played : List Command) (n : UInt32)
  /-- Turns are ended up to the one that a marker names. -/
  | approaching (played : List Command) (n : UInt32)
  /-- The script has run out. -/
  | onward

/-- Whether a turn may be counted. Where automation was suspended it is on again by then, unless the
turn is ended by hand, on the way to a marker, or by attacking on after the script. -/
def Task.Closes (s : BattleState) : Task → Prop
  | playing command => command.isByHand = true ∨ s.suspendedAuto = none
  | approaching .. => True
  | onward => s.attacksOn = true ∨ s.suspendedAuto = none
  | reading | marker .. => False

/-- How far a turn or an attempt at automation has come. -/
inductive Stage where
  | idle
  /-- Automation is being turned on, and the journal was `since` before that. -/
  | attempting (kind : AutoKind) (since : Journal)
  /-- Automation left the turn alone, so that it is submitted by hand. -/
  | lapsed (struck : Bool)
  | submitted
  /-- A turn was counted that leaves the range of turns. -/
  | overrun

namespace Stage

/-- Whether the party is looked after. -/
def watches : Stage → Bool
  | idle | submitted => true
  | _ => false

/-- What may be asked of the screen. A battle that was left gets no input, unless automation had
left the turn alone. -/
def May (p : Stage) (s : BattleState) (op : ScreenOp) : Prop :=
  op.input? = none ∨ match p with
    | lapsed _ => ∃ q, op = .input (.click "reload" q)
    | _ => s.retreated = false

theorem May.of_watches (hp : watches p = true) (hs : s.retreated = false) : May p s op := by
  cases p with
  | idle | submitted => exact .inr hs
  | _ => cases hp

end Stage

namespace Battle

/-- Why a turn counts as submitted: a button was clicked, the attack button was sought in vain, or
automation plays. -/
inductive Submission (cfg : Settings) (b : Battle) : Prop
  | clicked (hj : b.journal = e :: earlier) (he : e.submits = true)
  | inVain (h : b.journal.sought "attack" cfg.retry.pollInterval 9 = true)
  | automatic (h : b.state.autoMode.isActive = true)

/-- Automation of a kind may be turned on: no other kind is owed, unless the script asks for it. -/
def Owes (b : Battle) (kind : AutoKind) : Prop :=
  b.state.suspendedAuto = none ∨ b.state.suspendedAuto = some kind ∨
    ∃ turn earlier, b.journal = .event (.dispatched turn (.enableAuto kind)) :: earlier

/-- The party fell, and after so many looks in the turn nothing else was done. -/
def FellAfter (looks : Nat) (b : Battle) : Prop :=
  ∃ (sleeps : Journal) (turn : Nat) (response : WipeExit) (earlier : Journal),
    b.journal = sleeps ++ .event (.partyWiped turn response) :: earlier ∧
      sleeps.Sleeps ∧ looks ≤ earlier.looksInTurn

/-- What leads from the start of a fight to a battle, in a task and at a stage. -/
inductive Conduct (F : Setup) : Task → Stage → Battle → Prop
  | start : Conduct F .reading .idle (.start F.screen)
  | asked (h : Ask (p.May b.state) b b') (hb : Conduct F t p b) :
    Conduct F t p b'
  | setback (s : Setback) (hb : Conduct F t p b) :
    Conduct F t p (b.noted (.recovered b.state.currentTurn s))
  | reloaded (reason : ReloadReason) (hb : Conduct F t p b) :
    Conduct F t p (b.noted (.reloaded b.state.currentTurn reason))
  | anchored (anchor : Point) (hb : Conduct F t p b) :
    Conduct F t p { b with anchor }
  | concluded (outcome : Outcome) (hb : Conduct F t p b) :
    Conduct F t p (b.concluded outcome)
  | fallen (hp : p.watches = true) (h : Does F.cfg .fallen b b')
      (hb : Conduct F t p b) : Conduct F t p b'
  | submitted (h : Submission F.cfg b) (hb : Conduct F t .idle b) :
    Conduct F t .submitted b
  | lapsed (hm : b.state.autoMode.isActive = true)
      (hr : b.state.retreated = true → b.FellAfter Play.autoTurnLooks) (hb : Conduct F t .idle b) :
    Conduct F t (.lapsed false) b
  | struck (h : b.screen.perform? (.input (.click "attack" q)) = some (answer, s))
      (hb : Conduct F t (.lapsed false) b) :
    Conduct F t (.lapsed true) (b.answered (.input (.click "attack" q)) answer s)
  | resubmitted (hb : Conduct F t (.lapsed struck) b) :
    Conduct F t .submitted b
  /-- After the script an attack that is not seen to be resolved is not counted. -/
  | gaveUp (hb : Conduct F .onward .submitted b) : Conduct F .onward .idle b
  | turnEnded (ht : t.Closes b.state) (h : Does F.cfg .turnEnded b b')
      (hb : Conduct F t .submitted b) : Conduct F t .idle b'
  | overran (ht : t.Closes b.state) (hb : Conduct F t .submitted b) :
    Conduct F t .overrun (b.noted (.turnEnded b.state.currentTurn))
  | began (hm : b.state.autoMode = .manual) (hk : b.Owes kind)
      (hb : Conduct F t .idle b) :
    Conduct F t (.attempting kind b.journal) b.released
  | enabled (hj : b.journal = tries ++ since) (ha : Journal.Attempts kind tries)
      (h : Does F.cfg .enabled b b')
      (hb : Conduct F t (.attempting kind since) b) :
    Conduct F t .idle b'
  | refused (hj : b.journal = tries ++ since) (ha : Journal.Attempts kind tries)
      (hb : Conduct F t (.attempting kind since) b) :
    Conduct F t .idle
      (b.noted (.recovered b.state.currentTurn .autoUnavailable))
  /-- Automation gives way before the last turn that is missing, in strict mode. -/
  | suspended (hs : F.cfg.strategy.turnSync = .strict) (hn : b.state.currentTurn + 1 = n.toNat)
      (h : Does F.cfg .suspended b b')
      (hb : Conduct F (.approaching played n) .idle b) :
    Conduct F (.approaching played n) .idle b'
  | dispatched (h : Does F.cfg (.dispatched command) b b')
      (hb : Conduct F .reading .idle b) :
    Conduct F (.playing command) .idle b'
  | attacksOn (h : Does F.cfg .attacksOn b b')
      (hb : Conduct F (.playing command) .idle b) :
    Conduct F (.playing command) .idle b'
  | done (hb : Conduct F (.playing command) .idle b) :
    Conduct F .reading .idle b
  | entered (hc : F.script = played ++ .turn n :: rest)
      (ha : Fight.after? F.cfg F.screen played = some b)
      (hb : Conduct F .reading .idle b) :
    Conduct F (.marker played n) .idle b
  /-- Turns are only ended for a marker once no automation is owed. -/
  | aimed (hs : b.state.suspendedAuto = none) (h : Does F.cfg .aimed b b')
      (hb : Conduct F (.marker played n) .idle b) :
    Conduct F (.approaching played n) .idle b'
  | opened (h : Does F.cfg .opened b b')
      (hb : Conduct F (.approaching played n) .idle b) :
    Conduct F .reading .idle b'
  | skipped (h : Does F.cfg .skipped b b')
      (hb : Conduct F (.approaching played n) .idle b) :
    Conduct F .reading .idle b'
  | ranOut (ha : Fight.after? F.cfg F.screen F.script = some b)
      (hb : Conduct F .reading .idle b) :
    Conduct F .onward .idle b

/-- Some conduct leads to the battle. -/
def Conducted (F : Setup) (b : Battle) : Prop :=
  ∃ t p, Conduct F t p b

namespace Conduct

variable {F : Setup} {b b' : Battle}

theorem conducted (h : Conduct F t p b) : b.Conducted F :=
  ⟨t, p, h⟩

theorem asks (hA : ∀ op, A op → p.May b.state op) (h : Asks A b b')
    (hb : Conduct F t p b) : Conduct F t p b' := by
  induction h with
  | refl => exact hb
  | tail hb' h ih =>
    refine ih.asked (h.mono fun op hop => ?_)
    rw [Asks.state hb']
    exact hA op hop

/-- Looking and waiting is always possible. -/
theorem gazes (h : Asks (·.input? = none) b b') (hb : Conduct F t p b) :
    Conduct F t p b' :=
  hb.asks (fun _ => .inl) h

theorem asides (hp : p.watches = true) (hs : b.state.retreated = false) (h : Asides W b b')
    (hb : Conduct F t p b) : Conduct F t p b' := by
  induction h with
  | refl => exact hb
  | tail hb' h ih =>
    cases h with
    | ask h =>
      refine ih.asked (h.mono fun op _ => .of_watches hp ?_)
      rw [Asides.state hb', hs]
    | setback s => exact ih.setback s
    | reloaded reason => exact ih.reloaded reason
    | aim => exact ih.anchored _

/-- An attack that stalls is recovered from wherever automation left the turn alone. -/
theorem mends (h : Relation.ReflTransGen Mend b b')
    (hb : Conduct F t (.lapsed k) b) :
    Conduct F t (.lapsed k) b' := by
  induction h with
  | refl => exact hb
  | tail _ h ih =>
    cases h with
    | ask h =>
      refine ih.asked (h.mono fun op hop => ?_)
      cases op with
      | input i =>
        cases i with
        | click label q =>
          cases hop
          exact .inr ⟨q, rfl⟩
        | _ => cases hop
      | hide => cases hop
      | _ => exact .inl rfl
    | lost => exact ih.setback .anchorLost
    | reloaded reason => exact ih.reloaded reason
    | aim => exact ih.anchored _

/-- Automation that is owed does not play, and it is owed no longer while it is turned on. -/
theorem owing (h : Conduct F t p b) :
    (b.state.suspendedAuto ≠ none → b.state.autoMode = .manual) ∧
      ∀ kind since, p = .attempting kind since → b.state.suspendedAuto = none := by
  induction h with
  | start => exact ⟨fun _ => rfl, nofun⟩
  | asked h _ ih =>
    rw [h.state]
    exact ih
  | setback _ _ ih | reloaded _ _ ih | anchored _ _ ih | concluded _ _ ih => exact ih
  | fallen _ h _ ih =>
    rw [h.of_fallen]
    exact ih
  | submitted _ _ ih | lapsed _ _ _ ih | resubmitted _ ih | gaveUp _ ih | overran _ _ ih =>
    exact ⟨ih.1, nofun⟩
  | struck _ _ ih | refused _ _ _ ih => exact ⟨ih.1, nofun⟩
  | turnEnded _ h _ ih =>
    rw [h.of_turnEnded]
    exact ⟨ih.1, nofun⟩
  | began hm => exact ⟨fun _ => hm, fun _ _ _ => rfl⟩
  | enabled _ _ h _ ih =>
    cases h with
    | enabled => exact ⟨fun hs => absurd (ih.2 _ _ rfl) hs, nofun⟩
  | suspended _ _ h =>
    cases h with
    | suspended => exact ⟨fun _ => rfl, nofun⟩
  | dispatched h _ ih =>
    cases h with
    | dispatched | left => exact ih
  | attacksOn h _ ih =>
    cases h with
    | attacksOn => exact ih
  | aimed _ h _ ih =>
    cases h with
    | aimed => exact ih
  | opened h _ ih =>
    cases h with
    | opened => exact ih
  | skipped h _ ih =>
    cases h with
    | skipped => exact ih
  | done _ ih | entered _ _ _ ih | ranOut _ _ ih => exact ih

/-- The events tell the turn and the mode, unless a turn left its range. -/
theorem replayed (h : Conduct F t p b) (hp : p ≠ .overrun) : b.Replayed := by
  induction h with
  | start => exact .start F.screen
  | asked h _ ih =>
    cases h with
    | mk => exact (ih hp).kept rfl (Journal.events_call ..)
  | setback _ _ ih | reloaded _ _ ih => exact (ih hp).noted (Journal.events_event ..) (if_pos rfl)
  | anchored _ _ ih | concluded _ _ ih => exact (ih hp).kept rfl rfl
  | fallen _ h _ ih => exact (ih hp).does h
  | submitted _ _ ih | lapsed _ _ _ ih | resubmitted _ ih | gaveUp _ ih => exact ih nofun
  | struck _ _ ih => exact (ih nofun).kept rfl (Journal.events_call ..)
  | turnEnded _ h _ ih | enabled _ _ h _ ih => exact (ih nofun).does h
  | overran => exact absurd rfl hp
  | began _ _ _ ih => exact (ih nofun).kept rfl rfl
  | refused _ _ _ ih => exact (ih nofun).noted (Journal.events_event ..) (if_pos rfl)
  | suspended _ _ h _ ih | dispatched h _ ih | attacksOn h _ ih | aimed _ h _ ih | opened h _ ih
  | skipped h _ ih => exact (ih hp).does h
  | done _ ih | entered _ _ _ ih | ranOut _ _ ih => exact ih hp

end Conduct

end Battle

/-! ### Courses that are conducted -/

namespace Play
open Battle

/-- Begun in task `t` at stage `p`, in a state under `P`, the course leads to stage `q` in a state
under `Q`; and wherever it halts, some conduct leads there. -/
def Conducts (F : Setup) (t : Task) (p : Stage) (P : BattleState → Prop) (m : Play α) (q : Stage)
    (Q : α → BattleState → Prop) : Prop :=
  Triple (fun b => Conduct F t p b ∧ P b.state) m
    (fun a b => Conduct F t q b ∧ Q a b.state)
    fun _ b => b.Conducted F

namespace Conducts

variable {F : Setup} {t : Task} {p q r : Stage}
variable {P P' : BattleState → Prop} {R : α → BattleState → Prop} {Q Q' : β → BattleState → Prop}

theorem pure {a : β} (h : ∀ s, P s → Q a s) :
    Conducts F t p P (Pure.pure a : Play β) p Q :=
  Triple.pure fun _ hb => ⟨hb.1, h _ hb.2⟩

theorem bind {m : Play α} {f : α → Play β} (hm : Conducts F t p P m q R)
    (hf : ∀ a, Conducts F t q (R a) (f a) r Q) :
    Conducts F t p P (m >>= f) r Q :=
  Triple.bind hm hf

theorem discard {m : Play α} {Q : Unit → BattleState → Prop}
    (hm : Conducts F t p P m q fun _ => Q ()) :
    Conducts F t p P (Functor.discard m) q Q :=
  Triple.discard hm

theorem mono {m : Play β} (H : Conducts F t p P m q Q) (hP : ∀ s, P' s → P s)
    (hQ : ∀ a s, Q a s → Q' a s) : Conducts F t p P' m q Q' :=
  Triple.conseq H (fun _ h => ⟨h.1, hP _ h.2⟩) (fun _ _ h => ⟨h.1, hQ _ _ h.2⟩) fun _ _ h => h

theorem mono_start {m : Play β} (H : Conducts F t p P m q Q)
    (hP : ∀ s, P' s → P s) : Conducts F t p P' m q Q :=
  H.mono hP fun _ _ h => h

theorem mono_value {m : Play β} (H : Conducts F t p P m q Q)
    (hQ : ∀ a s, Q a s → Q' a s) : Conducts F t p P m q Q' :=
  H.mono (fun _ h => h) hQ

/-- What a course does from each battle alone, it does from all of them. -/
theorem of_eq {m : Play β}
    (h : ∀ b, Conduct F t p b → P b.state → Triple (· = b) m
      (fun a b => Conduct F t q b ∧ Q a b.state)
      fun _ b => b.Conducted F) : Conducts F t p P m q Q :=
  Triple.of_eq fun b hb => h b hb.1 hb.2

theorem of_state {m : Play β} (h : ∀ s, P s → Conducts F t p (· = s) m q Q) :
    Conducts F t p P m q Q := by
  refine .of_eq fun b hb hs => Triple.mono_start (h b.state hs) ?_
  rintro _ rfl
  exact ⟨hb, rfl⟩

theorem get_bind {f : Battle → Play β}
    (hf : ∀ b, P b.state → Conducts F t p (· = b.state) (f b) q Q) :
    Conducts F t p P (get >>= f) q Q := by
  refine .of_eq fun b hb hs => .get_bind fun b' h => ?_
  subst h
  refine Triple.mono_start (hf b' hs) ?_
  rintro _ rfl
  exact ⟨hb, rfl⟩

theorem gazes {m : Play α} (hm : Within (Ask (·.input? = none)) m) :
    Conducts F t p P m p fun _ => P := by
  refine .of_eq fun b hb hp => (hm.entire b).conseq (fun _ h => h) ?_ ?_
  · intro _ b' h
    rw [Asks.state h]
    exact ⟨hb.gazes h, hp⟩
  · rintro _ b' ⟨-, h⟩
    exact (hb.gazes h).conducted

theorem quiet (hp : p.watches = true) (hP : ∀ s, P s → s.retreated = false) {m : Play α}
    (hm : Quiet (fun _ => True) m) : Conducts F t p P m p fun _ => P := by
  refine .of_eq fun b hb hs => (Within.entire hm b).conseq (fun _ h => h) ?_ ?_
  · intro _ b' h
    rw [Asides.state h]
    exact ⟨hb.asides hp (hP _ hs) h, hs⟩
  · rintro _ b' ⟨-, h⟩
    exact (hb.asides hp (hP _ hs) h).conducted

end Conducts
end Play
end BattlePilot
