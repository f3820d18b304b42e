import BattlePilot.Proofs.Fight.Conduct

/-! Automation that gives way. It does so only before the last turn that a strict marker is missing,
and from then on it is owed: while it is, the mode stays manual, and it is turned on again, or
another kind in its place, before the script comes to anything that automation should have played.
That is the end of a later marker, a turn that is not ended by hand, and playing on after the
script. -/

namespace BattlePilot

namespace Entry

/-- Whether a marker comes to something. -/
def marks : Entry → Bool
  | event (.turnStarted _) | event (.markerSkipped ..) => true
  | _ => false

/-- Whether a command is counted or a marker comes to something. -/
def orders : Entry → Bool
  | event (.dispatched ..) => true
  | e => e.marks

/-- Whether it is told how an attempt at automation came out. -/
def answersAuto : Entry → Bool
  | event (.autoModeChanged .manual _) | event (.recovered _ .autoUnavailable) => true
  | _ => false

/-- Nothing that automation which gave way depends on. -/
def isAside (e : Entry) : Bool := !(e.changesMode || e.orders || e.endsTurn)

/-- Automation gives way. -/
abbrev suspension (mode : AutoMode) : Entry := event (.autoModeChanged mode .manual)

variable {e : Entry}

theorem orders_of_marks (h : e.marks = true) : e.orders = true := by
  cases e with
  | event e =>
    cases e with
    | turnStarted | markerSkipped => rfl
    | _ => cases h
  | call => cases h

theorem isAside_iff :
    e.isAside = true ↔ e.changesMode = false ∧ e.orders = false ∧ e.endsTurn = false := by
  simp [isAside, and_assoc]

theorem ne_suspension (h : e.changesMode = false) (mode : AutoMode) : e ≠ suspension mode := by
  rintro rfl
  cases h

end Entry

namespace Journal

/-- The script has just asked for automation of a kind. -/
def AsksFor (kind : AutoKind) (j : Journal) : Prop :=
  ∃ turn earlier, j = .event (.dispatched turn (.enableAuto kind)) :: earlier

/-- It was tried to turn automation of a kind on again, or another kind that the script asked for,
and it was told what came of it. -/
def Resumed (kind : AutoKind) (j : Journal) : Prop :=
  ∃ (kind' : AutoKind) (after : Journal) (e : Entry) (tries before : Journal),
    j = after ++ e :: (tries ++ before) ∧ e.answersAuto = true ∧ Attempts kind' tries ∧
      (kind' = kind ∨ before.AsksFor kind')

theorem Resumed.cons (h : Resumed kind j) (e : Entry) : Resumed kind (e :: j) := by
  obtain ⟨kind', after, e', tries, before, rfl, h⟩ := h
  exact ⟨kind', e :: after, e', tries, before, rfl, h⟩

/-- Whatever automation gave way was resumed. -/
def AllResumed (j : Journal) : Prop :=
  ∀ (since : Journal) mode kind earlier, j = since ++ .suspension mode :: earlier →
    mode.kind? = some kind → since.Resumed kind

end Journal

namespace Setup

variable (F : Setup)

/-- The marker of a turn is at hand: the commands before it were played, and nothing has come of
it yet. -/
def AtMarker (played : List Command) (n : UInt32) (j : Journal) : Prop :=
  ∃ rest o since, F.script = played ++ .turn n :: rest ∧
    Fight.after? F.cfg F.screen played = some o ∧ j = since ++ o.journal ∧
      ∀ e ∈ since, e.orders = false

/-- The script has run out, and the battle is attacked on or not. -/
def RanOut (attacksOn : Bool) (j : Journal) : Prop :=
  ∃ o since, Fight.after? F.cfg F.screen F.script = some o ∧ o.state.attacksOn = attacksOn ∧
    j = since ++ o.journal

/-- Where automation gives way: a strict marker is at hand, and one turn is missing. -/
structure GivesWay (earlier : Journal) : Prop where
  strict : F.cfg.strategy.turnSync = .strict
  atMarker : ∃ played n replay, F.AtMarker played n earlier ∧
    Replay.ofEvents? earlier.events = some replay ∧ replay.turn + 1 = n.toNat

/-- What automation that gave way in the newest entry of `gone` is resumed before. -/
structure Keeps (kind : AutoKind) (since gone : Journal) : Prop where
  /-- A marker that comes to something after the one that automation gave way to. -/
  markers : ∀ (new : Journal) e old, since = new ++ e :: old → e.marks = true →
    old.any Entry.marks = true → Journal.Resumed kind old
  /-- A turn that is counted in a command which does not end it by hand. -/
  turns : ∀ (new : Journal) turn old, since = new ++ .event (.turnEnded turn) :: old →
    ∀ turn' command, old.find? Entry.orders = some (.event (.dispatched turn' command)) →
      command.isByHand = false → Journal.Resumed kind old ∨ F.RanOut true (old ++ gone)

/-- What is known about automation that gave way. -/
structure Suspends (mode : AutoMode) (since earlier : Journal) : Prop where
  givesWay : F.GivesWay earlier
  kept : ∃ kind, mode.kind? = some kind ∧ F.Keeps kind since (.suspension mode :: earlier) ∧
    (Journal.Resumed kind since ∨ ∀ e ∈ since, e.changesMode = false)

end Setup

/-! ### Automation that waits -/

def Task.approaches : Task → Bool
  | approaching .. => true
  | _ => false

namespace Battle

/-- Automation that gave way in the newest entry of `gone` was not resumed since: it is owed, or
just being turned on. -/
structure Waits (t : Task) (p : Stage) (b : Battle) (kind : AutoKind) (since gone : Journal) :
    Prop where
  pending : b.state.suspendedAuto = some kind ∨ ∃ kind' before,
    p = .attempting kind' (before ++ gone) ∧ (kind' = kind ∨ before.AsksFor kind')
  manual : ∀ e ∈ since, e.changesMode = false
  /-- Automation that waits on the way to a marker gave way to that marker. -/
  unordered : t.approaches = true → ∀ e ∈ since, e.orders = false

/-- Whatever automation gave way was resumed, or waits. -/
def Standing (t : Task) (p : Stage) (b : Battle) : Prop :=
  ∀ (since : Journal) mode kind earlier, b.journal = since ++ .suspension mode :: earlier →
    mode.kind? = some kind →
      since.Resumed kind ∨ b.Waits t p kind since (.suspension mode :: earlier)

variable {t u : Task} {p q : Stage} {b b' : Battle} {e : Entry}

namespace Standing

theorem of_resumed (h : b.journal.AllResumed) : Standing t p b :=
  fun since mode kind earlier hsplit hk => .inl (h since mode kind earlier hsplit hk)

/-- Where nothing is owed and nothing is being turned on, nothing waits. -/
theorem resumed (h : Standing t p b) (hnone : b.state.suspendedAuto = none)
    (hp : ∀ kind since, p ≠ .attempting kind since) : b.journal.AllResumed := by
  intro since mode kind earlier hsplit hk
  rcases h since mode kind earlier hsplit hk with h | h
  · exact h
  · rcases h.pending with hs | ⟨kind', before, hp', -⟩
    · rw [hnone] at hs
      cases hs
    · exact absurd hp' (hp _ _)

theorem kept (h : Standing t p b) (hj : b'.journal = b.journal)
    (hs : b'.state.suspendedAuto = b.state.suspendedAuto)
    (hp : ∀ kind since, p = .attempting kind since → q = .attempting kind since)
    (ht : u.approaches = true → t.approaches = true) : Standing u q b' := by
  intro since mode kind earlier hsplit hk
  rw [hj] at hsplit
  refine (h since mode kind earlier hsplit hk).imp_right fun h => ?_
  refine ⟨h.pending.imp hs.trans ?_, h.manual, fun hu => h.unordered (ht hu)⟩
  rintro ⟨kind', before, hp', hk'⟩
  exact ⟨kind', before, hp _ _ hp', hk'⟩

/-- One more entry, which does not change the mode. -/
theorem entry (h : Standing t p b) (hj : b'.journal = e :: b.journal)
    (hs : b'.state.suspendedAuto = b.state.suspendedAuto) (he : e.changesMode = false)
    (hp : ∀ kind since, p = .attempting kind since → q = .attempting kind since)
    (ht : u.approaches = true → t.approaches = true ∧ e.orders = false) : Standing u q b' := by
  intro since mode kind earlier hsplit hk
  rw [hj] at hsplit
  cases since with
  | nil => exact absurd (List.cons.inj hsplit).1 (Entry.ne_suspension he mode)
  | cons e' since =>
    obtain ⟨rfl, htail⟩ := List.cons.inj hsplit
    rcases h since mode kind earlier htail hk with h | h
    · exact .inl (h.cons _)
    · refine .inr ⟨h.pending.imp hs.trans ?_, ?_, fun hu => ?_⟩
      · rintro ⟨kind', before, hp', hk'⟩
        exact ⟨kind', before, hp _ _ hp', hk'⟩
      · exact List.forall_mem_cons.2 ⟨he, h.manual⟩
      · exact List.forall_mem_cons.2 ⟨(ht hu).2, h.unordered (ht hu).1⟩

theorem aside (h : Standing t p b) (hj : b'.journal = e :: b.journal)
    (hs : b'.state.suspendedAuto = b.state.suspendedAuto) (he : e.isAside = true)
    (hp : ∀ kind since, p = .attempting kind since → q = .attempting kind since) :
    Standing t q b' :=
  have he := Entry.isAside_iff.1 he
  h.entry hj hs he.1 hp fun ht => ⟨ht, he.2.1⟩

/-- An attempt is begun at what is owed, or at what the script has asked for. -/
theorem began (h : Standing t .idle b) (hk : b.Owes kind) :
    Standing t (.attempting kind b.journal) b.released := by
  intro since mode kind₁ earlier hsplit hk₁
  refine (h since mode kind₁ earlier hsplit hk₁).imp_right fun h => ?_
  refine ⟨.inr ⟨kind, since, congrArg _ hsplit, ?_⟩, h.manual, h.unordered⟩
  have howed : b.state.suspendedAuto = some kind₁ := by
    rcases h.pending with hs | ⟨_, _, hp, -⟩
    · exact hs
    · cases hp
  rcases hk with hnone | hsome | ⟨turn, before, hj⟩
  · rw [hnone] at howed
    cases howed
  · rw [hsome] at howed
    exact .inl (Option.some.inj howed)
  · have hsplit := hsplit.symm.trans hj
    cases since with
    | nil => cases hsplit
    | cons e since =>
      obtain ⟨rfl, -⟩ := List.cons.inj hsplit
      exact .inr ⟨turn, since, rfl⟩

/-- Once it is told what came of the attempt, all is resumed. -/
theorem answered (h : Standing t (.attempting kind before) b)
    (hnone : b.state.suspendedAuto = none) (hj : b.journal = tries ++ before)
    (ha : Journal.Attempts kind tries) (he : e.answersAuto = true)
    (hne : ∀ mode, mode.kind? ≠ none → e ≠ .suspension mode) :
    Journal.AllResumed (e :: b.journal) := by
  intro since mode kind₁ earlier hsplit hk
  cases since with
  | nil => exact absurd (List.cons.inj hsplit).1 (hne mode (by rw [hk]; nofun))
  | cons e' since =>
    obtain ⟨rfl, htail⟩ := List.cons.inj hsplit
    rcases h since mode kind₁ earlier htail hk with h | h
    · exact h.cons _
    · rcases h.pending with hs | ⟨kind', since', hp, hk'⟩
      · rw [hnone] at hs
        cases hs
      · cases hp
        rw [htail, ← List.append_assoc] at hj
        obtain rfl := List.append_cancel_right hj
        exact ⟨kind, [], _, tries, since', rfl, he, ha, hk'⟩

/-- Automation that plays is owed from when it gives way on. -/
theorem suspended (h : Standing t .idle b) (hb : b.state.suspendedAuto = none)
    (hk : b.state.autoMode.kind? = some kind)
    (hj : b'.journal = .suspension b.state.autoMode :: b.journal)
    (hs : b'.state.suspendedAuto = some kind) : Standing t .idle b' := by
  intro since mode kind₁ earlier hsplit hk₁
  rw [hj] at hsplit
  cases since with
  | nil =>
    obtain ⟨hmode, -⟩ := List.cons.inj hsplit
    cases hmode
    rw [hk] at hk₁
    cases hk₁
    exact .inr ⟨.inl hs, nofun, fun _ => nofun⟩
  | cons e since =>
    obtain ⟨-, htail⟩ := List.cons.inj hsplit
    exact .inl ((h.resumed hb nofun since mode kind₁ earlier htail hk₁).cons _)

end Standing

/-- Automation that plays is not owed. -/
theorem Conduct.not_owed (h : Conduct F t p b) (hk : b.state.autoMode.kind? = some kind) :
    b.state.suspendedAuto = none := by
  refine Decidable.byContradiction fun hne => ?_
  rw [h.owing.1 hne] at hk
  cases hk

theorem Conduct.standing (h : Conduct F t p b) : Standing t p b := by
  induction h with
  | start => exact .of_resumed fun since _ _ _ hsplit => by cases since <;> cases hsplit
  | asked h _ ih =>
    cases h with
    | mk => exact ih.aside rfl rfl rfl fun _ _ h => h
  | setback _ _ ih | reloaded _ _ ih => exact ih.aside rfl rfl rfl fun _ _ h => h
  | anchored _ _ ih | concluded _ _ ih => exact ih.kept rfl rfl (fun _ _ h => h) id
  | fallen hp h _ ih =>
    cases h with
    | wiped => exact ih.aside rfl rfl rfl fun _ _ h => h
    | backedOut =>
      refine Standing.aside (b := Battle.answered _ (.input .home) _ _) ?_ rfl rfl rfl
        fun _ _ h => h
      exact ih.aside rfl rfl rfl fun _ _ h => h
  | submitted _ _ ih | lapsed _ _ _ ih | resubmitted _ ih | gaveUp _ ih =>
    exact ih.kept rfl rfl nofun id
  | struck _ _ ih => exact ih.aside rfl rfl rfl nofun
  | turnEnded _ h _ ih =>
    cases h with
    | turnEnded => exact ih.entry rfl rfl rfl nofun fun h => ⟨h, rfl⟩
  | overran _ _ ih => exact ih.entry rfl rfl rfl nofun fun h => ⟨h, rfl⟩
  | began _ hk _ ih => exact ih.began hk
  | enabled hj ha h hb ih =>
    cases h with
    | enabled _ hactive =>
      refine .of_resumed (ih.answered (hb.owing.2 _ _ rfl) hj ha rfl ?_)
      rintro mode hk hne
      cases hne
      exact absurd rfl hk
  | refused hj ha hb ih =>
    refine .of_resumed (ih.answered (hb.owing.2 _ _ rfl) hj ha rfl ?_)
    exact fun _ _ => nofun
  | suspended _ _ h hb ih =>
    cases h with
    | suspended hk => exact ih.suspended (hb.not_owed hk) hk rfl rfl
  | dispatched h _ ih =>
    cases h with
    | dispatched => exact ih.entry rfl rfl rfl nofun nofun
    | left =>
      refine Standing.entry (t := .playing .exit) (p := .idle) (b := Battle.counted _ .exit) ?_
        rfl rfl rfl nofun nofun
      exact ih.entry rfl rfl rfl nofun nofun
  | attacksOn h _ ih =>
    cases h with
    | attacksOn => exact ih.kept rfl rfl nofun id
  | aimed hnone h _ ih =>
    cases h with
    | aimed => exact .of_resumed (ih.resumed hnone nofun)
  | opened h _ ih =>
    cases h with
    | opened => exact ih.entry rfl rfl rfl nofun nofun
  | skipped h _ ih =>
    cases h with
    | skipped => exact ih.entry rfl rfl rfl nofun nofun
  | done _ ih | entered _ _ _ ih | ranOut _ _ ih => exact ih.kept rfl rfl nofun nofun

/-! ### Where the script is -/

/-- Where the script is, in a task. -/
def Placed (F : Setup) (b : Battle) : Task → Prop
  | .reading => True
  | .playing command =>
    ∃ turn, b.journal.find? Entry.orders = some (.event (.dispatched turn command))
  | .marker played n | .approaching played n => F.AtMarker played n b.journal
  | .onward => F.RanOut b.state.attacksOn b.journal

variable {F : Setup}

theorem Placed.kept (h : Placed F b t) (hj : b'.journal = b.journal)
    (ha : b'.state.attacksOn = b.state.attacksOn) : Placed F b' t := by
  cases t with
  | reading => trivial
  | onward =>
    unfold Placed
    rw [hj, ha]
    exact h
  | _ =>
    unfold Placed
    rw [hj]
    exact h

theorem Placed.entry (h : Placed F b t) (hj : b'.journal = e :: b.journal)
    (ha : b'.state.attacksOn = b.state.attacksOn) (he : e.orders = false) : Placed F b' t := by
  have atMarker {played : List Command} {n : UInt32} (h : F.AtMarker played n b.journal) :
      F.AtMarker played n b'.journal := by
    obtain ⟨rest, o, since, hc, ho, hsplit, hsince⟩ := h
    refine ⟨rest, o, e :: since, hc, ho, ?_, List.forall_mem_cons.2 ⟨he, hsince⟩⟩
    rw [hj, hsplit, List.cons_append]
  cases t with
  | reading => trivial
  | playing command =>
    obtain ⟨turn, h⟩ := h
    refine ⟨turn, ?_⟩
    rw [hj, List.find?_cons, he]
    exact h
  | marker | approaching => exact atMarker h
  | onward =>
    obtain ⟨o, since, ho, hattacks, hsplit⟩ := h
    exact ⟨o, e :: since, ho, hattacks.trans ha.symm, by rw [hj, hsplit, List.cons_append]⟩

theorem Conduct.placed (h : Conduct F t p b) : Placed F b t := by
  induction h with
  | start => trivial
  | asked h _ ih =>
    cases h with
    | mk => exact ih.entry rfl rfl rfl
  | setback _ _ ih | reloaded _ _ ih | struck _ _ ih | overran _ _ ih | refused _ _ _ ih =>
    exact ih.entry rfl rfl rfl
  | anchored _ _ ih | concluded _ _ ih | began _ _ _ ih => exact ih.kept rfl rfl
  | fallen _ h _ ih =>
    cases h with
    | wiped => exact ih.entry rfl rfl rfl
    | backedOut =>
      refine Placed.entry (b := Battle.answered _ (.input .home) _ _) ?_ rfl rfl rfl
      exact ih.entry rfl rfl rfl
  | submitted _ _ ih | lapsed _ _ _ ih | resubmitted _ ih | gaveUp _ ih => exact ih
  | turnEnded _ h _ ih =>
    cases h with
    | turnEnded => exact ih.entry rfl rfl rfl
  | enabled _ _ h _ ih =>
    cases h with
    | enabled => exact ih.entry rfl rfl rfl
  | suspended _ _ h _ ih =>
    cases h with
    | suspended => exact ih.entry rfl rfl rfl
  | dispatched h _ ih =>
    cases h with
    | dispatched | left => exact ⟨_, rfl⟩
  | attacksOn h _ ih =>
    cases h with
    | attacksOn => exact ih
  | aimed _ h _ ih =>
    cases h with
    | aimed => exact ih
  | opened | skipped | done => trivial
  | entered hc ha => exact ⟨_, _, [], hc, ha, rfl, nofun⟩
  | ranOut ha => exact ⟨_, [], ha, rfl, rfl⟩

end Battle

/-! ### What is kept -/

namespace Setup

variable {F : Setup}

/-- Everything that is known about automation that gave way, but for the mode since. -/
def KeepsAll (F : Setup) (j : Journal) : Prop :=
  ∀ (since : Journal) mode earlier, j = since ++ .suspension mode :: earlier →
    F.GivesWay earlier ∧ ∃ kind, mode.kind? = some kind ∧
      F.Keeps kind since (.suspension mode :: earlier)

theorem Keeps.nil : F.Keeps kind [] gone where
  markers new e old h := by cases new <;> cases h
  turns new turn old h := by cases new <;> cases h

theorem Keeps.cons (h : F.Keeps kind since gone)
    (hm : e.marks = true → since.any Entry.marks = true → Journal.Resumed kind since)
    (ht : ∀ turn, e = .event (.turnEnded turn) →
      ∀ turn' command, since.find? Entry.orders = some (.event (.dispatched turn' command)) →
        command.isByHand = false → Journal.Resumed kind since ∨ F.RanOut true (since ++ gone)) :
    F.Keeps kind (e :: since) gone where
  markers new e' old hsplit he' hold := by
    cases new with
    | nil =>
      cases hsplit
      exact hm he' hold
    | cons e₁ new =>
      obtain ⟨-, hsplit⟩ := List.cons.inj hsplit
      exact h.markers new e' old hsplit he' hold
  turns new turn old hsplit := by
    cases new with
    | nil =>
      cases hsplit
      exact ht turn rfl
    | cons e₁ new =>
      obtain ⟨-, hsplit⟩ := List.cons.inj hsplit
      exact h.turns new turn old hsplit

/-- What an entry has to keep that is no suspension. -/
theorem KeepsAll.cons (h : F.KeepsAll j) (hne : ∀ mode, e ≠ .suspension mode)
    (hm : e.marks = true → ∀ (since : Journal) mode kind earlier,
      j = since ++ .suspension mode :: earlier → mode.kind? = some kind →
        since.any Entry.marks = true → since.Resumed kind)
    (ht : e.endsTurn = true → ∀ (since : Journal) mode kind earlier,
      j = since ++ .suspension mode :: earlier → mode.kind? = some kind →
        ∀ turn' command, since.find? Entry.orders = some (.event (.dispatched turn' command)) →
          command.isByHand = false → since.Resumed kind ∨ F.RanOut true j) :
    F.KeepsAll (e :: j) := by
  intro since mode earlier hsplit
  cases since with
  | nil => exact absurd (List.cons.inj hsplit).1 (hne mode)
  | cons e' since =>
    obtain ⟨rfl, htail⟩ := List.cons.inj hsplit
    obtain ⟨hgives, kind, hk, hkeeps⟩ := h since mode earlier htail
    refine ⟨hgives, kind, hk, hkeeps.cons ?_ ?_⟩
    · exact fun he => hm he since mode kind earlier htail hk
    · rintro turn rfl
      rw [← List.append_eq, ← htail]
      exact ht rfl since mode kind earlier htail hk

theorem KeepsAll.aside (h : F.KeepsAll j) (he : e.isAside = true) : F.KeepsAll (e :: j) := by
  obtain ⟨hmode, horders, hends⟩ := Entry.isAside_iff.1 he
  refine h.cons (Entry.ne_suspension hmode) (fun hm => ?_) fun ht => ?_
  · rw [Entry.orders_of_marks hm] at horders
    cases horders
  · rw [hends] at ht
    cases ht

theorem KeepsAll.suspended (h : F.KeepsAll j) (hgives : F.GivesWay j)
    (hk : mode.kind? = some kind) : F.KeepsAll (.suspension mode :: j) := by
  intro since mode' earlier hsplit
  cases since with
  | nil =>
    cases hsplit
    exact ⟨hgives, kind, hk, .nil⟩
  | cons e since =>
    obtain ⟨rfl, htail⟩ := List.cons.inj hsplit
    obtain ⟨hgives, kind, hk, hkeeps⟩ := h since mode' earlier htail
    exact ⟨hgives, kind, hk, hkeeps.cons nofun nofun⟩

end Setup

namespace Battle

variable {F : Setup} {t : Task} {p : Stage} {b b' : Battle}

/-- A marker that comes to something resumes what gave way to another one. -/
theorem Standing.marks (h : Standing (.approaching played n) p b) (since : Journal) mode kind
    earlier (hsplit : b.journal = since ++ .suspension mode :: earlier)
    (hk : mode.kind? = some kind) (hm : since.any Entry.marks = true) : since.Resumed kind := by
  refine (h since mode kind earlier hsplit hk).resolve_right fun h => ?_
  obtain ⟨e, he, hmarks⟩ := List.any_eq_true.1 hm
  have horders := h.unordered rfl e he
  rw [Entry.orders_of_marks hmarks] at horders
  cases horders

/-- A turn that is not ended by hand is counted once everything is resumed, unless the script has
run out and is to attack on. -/
theorem Conduct.counts (hb : Conduct F t .submitted b) (ht : t.Closes b.state) (since : Journal)
    mode kind earlier (hsplit : b.journal = since ++ .suspension mode :: earlier)
    (hk : mode.kind? = some kind) (turn : Nat) (command : Command)
    (horder : since.find? Entry.orders = some (.event (.dispatched turn command)))
    (hhand : command.isByHand = false) : since.Resumed kind ∨ F.RanOut true b.journal := by
  have resumed (hnone : b.state.suspendedAuto = none) : since.Resumed kind :=
    hb.standing.resumed hnone nofun since mode kind earlier hsplit hk
  have hplaced := hb.placed
  cases t with
  | reading | marker => exact ht.elim
  | playing c =>
    obtain ⟨turn', hlast⟩ := hplaced
    rw [hsplit, List.find?_append, horder] at hlast
    cases hlast
    rcases ht with hc | hnone
    · rw [hhand] at hc
      cases hc
    · exact .inl (resumed hnone)
  | approaching =>
    refine (hb.standing since mode kind earlier hsplit hk).imp_right fun h => ?_
    have hmem := List.mem_of_find?_eq_some horder
    cases h.unordered rfl _ hmem
  | onward =>
    rcases ht with hattacks | hnone
    · rw [Placed, hattacks] at hplaced
      exact .inr hplaced
    · exact .inl (resumed hnone)

theorem Conduct.keeps (h : Conduct F t p b) : F.KeepsAll b.journal := by
  induction h with
  | start =>
    intro since mode earlier hsplit
    cases since <;> cases hsplit
  | asked h _ ih =>
    cases h with
    | mk => exact ih.aside rfl
  | setback _ _ ih | reloaded _ _ ih | struck _ _ ih | refused _ _ _ ih => exact ih.aside rfl
  | anchored _ _ ih | concluded _ _ ih | began _ _ _ ih | submitted _ _ ih | lapsed _ _ _ ih
  | resubmitted _ ih | gaveUp _ ih => exact ih
  | fallen _ h _ ih =>
    cases h with
    | wiped => exact ih.aside rfl
    | backedOut => exact Setup.KeepsAll.aside (ih.aside rfl) rfl
  | turnEnded ht h hb ih =>
    cases h with
    | turnEnded => exact ih.cons nofun nofun fun _ => hb.counts ht
  | overran ht hb ih => exact ih.cons nofun nofun fun _ => hb.counts ht
  | enabled _ _ h _ ih =>
    cases h with
    | enabled _ hactive =>
      refine ih.cons ?_ nofun nofun
      rintro mode hne
      cases hne
      cases hactive
  | suspended hsync hn h hb ih =>
    cases h with
    | suspended hk =>
      exact ih.suspended ⟨hsync, _, _, _, hb.placed, hb.replayed nofun, hn⟩ hk
  | dispatched h _ ih =>
    cases h with
    | dispatched => exact ih.cons nofun nofun nofun
    | left => exact Setup.KeepsAll.aside (ih.cons nofun nofun nofun) rfl
  | attacksOn h _ ih =>
    cases h with
    | attacksOn => exact ih
  | aimed _ h _ ih =>
    cases h with
    | aimed => exact ih
  | opened h hb ih =>
    cases h with
    | opened => exact ih.cons nofun (fun _ => hb.standing.marks) nofun
  | skipped h hb ih =>
    cases h with
    | skipped => exact ih.cons nofun (fun _ => hb.standing.marks) nofun
  | done _ ih | entered _ _ _ ih | ranOut _ _ ih => exact ih

/-- Everything that is known about automation that gave way. -/
theorem Conduct.suspends (h : Conduct F t p b) (since : Journal) mode earlier
    (hsplit : b.journal = since ++ .suspension mode :: earlier) :
    F.Suspends mode since earlier := by
  obtain ⟨hgives, kind, hk, hkeeps⟩ := h.keeps since mode earlier hsplit
  have hmanual := (h.standing since mode kind earlier hsplit hk).imp_right (·.manual)
  exact ⟨hgives, kind, hk, hkeeps, hmanual⟩

end Battle
end BattlePilot
