import BattlePilot.Proofs.Fight.Leaving
import BattlePilot.Proofs.Play.OrderedCommands

/-! Looking for the end of a battle in time. In every fight, whatever comes of it, an end is looked
for right before each command that is counted and right after each turn, and an end that is found
is the end of the fight. -/

namespace BattlePilot

namespace Journal

/-- Nothing but sleep. -/
def Sleeps (j : Journal) : Prop := ∀ e ∈ j, e.Asks fun op => ∃ d, op = .sleep d

/-- An end has been looked for, at first after sleep alone, and none was found. -/
def SawNoEnd (j : Journal) : Prop :=
  ∃ rest clock answers sleeps, Answers none answers ∧ Sleeps sleeps ∧
    j = rest ++ ofLook clock answers ++ sleeps

theorem SawNoEnd.append {j : Journal} (h : SawNoEnd j) (new : Journal) : SawNoEnd (new ++ j) := by
  obtain ⟨rest, clock, answers, sleeps, ha, hs, rfl⟩ := h
  refine ⟨new ++ rest, clock, answers, sleeps, ha, hs, ?_⟩
  simp only [List.append_assoc]

end Journal

namespace Dismissal

/-- A dismissal sends one click at most. -/
theorem sent (h : Dismissal d) :
    Journal.sent d = [] ∨ ∃ p, Journal.sent d = [.click "reload" p] := by
  have looks_sent {looks : Journal} (h : ∀ e ∈ looks, e.Asks (ScreenOp.Seeks "reload")) :
      Journal.sent looks = [] := by
    refine List.filterMap_eq_nil_iff.2 fun e he => ?_
    have he := h e he
    cases e with
    | call clock op answer =>
      cases op with
      | input i => cases he
      | _ => rfl
    | event e => cases he
  cases h with
  | missed h => exact .inl (looks_sent h)
  | @clicked looks clock p answer h =>
    refine .inr ⟨p, ?_⟩
    rw [Journal.sent_call, looks_sent h]
    rfl

end Dismissal

/-! ### Looks before commands and after turns -/

theorem Event.not_counting {e : Event} (he : e.isRemark = true) :
    (∀ turn command, Entry.event e ≠ .event (.dispatched turn command)) ∧
      ∀ turn, Entry.event e ≠ .event (.turnEnded turn) := by
  constructor <;> (intros; rintro ⟨⟩; cases he)

theorem Event.isRemark_of_tellsAuto {e : Event} (he : e.tellsAuto = true) : e.isRemark = true := by
  cases e with
  | turnStarted | turnEnded | dispatched | ended => cases he
  | _ => rfl

namespace Journal

/-- Each command was counted right after a look that found nothing. -/
def LooksBefore (j : Journal) : Prop :=
  ∀ later turn command earlier, j = later ++ .event (.dispatched turn command) :: earlier →
    ∃ clock answers before, Answers none answers ∧ earlier = ofLook clock answers ++ before

/-- After each turn that was counted an end has been looked for; where a look is still due, there
may have been nothing but sleep since the turn. -/
def LooksAfter (due : Bool) (j : Journal) : Prop :=
  ∀ (later : Journal) turn earlier, j = later ++ .event (.turnEnded turn) :: earlier →
    due = true ∧ later.Sleeps ∨ later.SawNoEnd

variable {j : Journal}

theorem LooksBefore.append (h : LooksBefore j) (new : Journal)
    (hnew : ∀ turn command, .event (.dispatched turn command) ∉ new) : LooksBefore (new ++ j) := by
  intro later turn command earlier hsplit
  obtain ⟨more, -, hj⟩ := split_of_not_mem (hnew turn command) hsplit
  exact h more turn command earlier hj

theorem LooksBefore.cons (h : LooksBefore j) {e : Entry}
    (he : ∀ turn command, e ≠ .event (.dispatched turn command)) : LooksBefore (e :: j) :=
  h.append [e] fun turn command hmem => he turn command (List.mem_singleton.1 hmem).symm

theorem LooksBefore.dispatched (h : LooksBefore j) (ha : Answers none answers) :
    LooksBefore (.event (.dispatched turn command) :: (ofLook clock answers ++ j)) := by
  have hlook := h.append (ofLook clock answers) fun _ _ => event_not_mem_ofLook
  intro later turn' command' earlier hsplit
  cases later with
  | nil =>
    cases hsplit
    exact ⟨clock, answers, j, ha, rfl⟩
  | cons e later =>
    rw [List.cons_append, List.cons.injEq] at hsplit
    exact hlook later turn' command' earlier hsplit.2

theorem LooksAfter.append (h : LooksAfter false j) (new : Journal)
    (hnew : ∀ turn, .event (.turnEnded turn) ∉ new) : LooksAfter due (new ++ j) := by
  intro later turn earlier hsplit
  obtain ⟨more, rfl, hj⟩ := split_of_not_mem (hnew turn) hsplit
  rcases h more turn earlier hj with ⟨hdue, -⟩ | h
  · cases hdue
  · exact .inr (h.append new)

theorem LooksAfter.cons (h : LooksAfter false j) {e : Entry}
    (he : ∀ turn, e ≠ .event (.turnEnded turn)) : LooksAfter due (e :: j) :=
  h.append [e] fun turn hmem => he turn (List.mem_singleton.1 hmem).symm

theorem LooksAfter.sleep (h : LooksAfter due j) (d : Span) :
    LooksAfter due (.call clock (.sleep d) answer :: j) := by
  intro later turn earlier hsplit
  have hnew : .event (.turnEnded turn) ∉ [Entry.call clock (.sleep d) answer] := by simp
  obtain ⟨more, rfl, hj⟩ := split_of_not_mem hnew hsplit
  rcases h more turn earlier hj with ⟨hdue, hs⟩ | h
  · exact .inl ⟨hdue, List.forall_mem_cons.2 ⟨⟨d, rfl⟩, hs⟩⟩
  · exact .inr (h.append _)

theorem LooksAfter.turnEnded (h : LooksAfter false j) :
    LooksAfter true (.event (.turnEnded turn) :: j) := by
  intro later turn' earlier hsplit
  cases later with
  | nil => exact .inl ⟨rfl, nofun⟩
  | cons e later =>
    rw [List.cons_append, List.cons.injEq] at hsplit
    rcases h later turn' earlier hsplit.2 with ⟨hdue, -⟩ | h
    · cases hdue
    · exact .inr (h.append [e])

theorem LooksAfter.looked (h : LooksAfter true j) (ha : Answers none answers) :
    LooksAfter false (ofLook clock answers ++ j) := by
  intro later turn earlier hsplit
  obtain ⟨more, rfl, hj⟩ := split_of_not_mem event_not_mem_ofLook hsplit
  rcases h more turn earlier hj with ⟨-, hs⟩ | h
  · exact .inr ⟨[], clock, answers, more, ha, hs, rfl⟩
  · exact .inr (h.append _)

end Journal

namespace Ordered

variable {L : Licence}

theorem looksBefore (h : Ordered L [] p j) : Journal.LooksBefore j := by
  induction h with
  | start => exact fun later _ _ _ h => by cases later <;> cases h
  | ready _ ih | gaveUp _ _ ih => exact ih
  | asked _ _ _ ih | opened _ _ ih | attacked _ ih | turnEnded _ ih => exact ih.cons nofun
  | remarked he _ _ ih => exact ih.cons (Event.not_counting he).1
  | told he _ ih => exact ih.cons (Event.not_counting (Event.isRemark_of_tellsAuto he)).1
  | looked _ _ ih => exact ih.append _ fun _ _ => Journal.event_not_mem_ofLook
  | dispatched ha _ ih => exact ih.dispatched ha

theorem looksAfter (h : Ordered L [] p j) : Journal.LooksAfter p.isDue j := by
  induction h with
  | start => exact fun later _ _ h => by cases later <;> cases h
  | ready _ ih | gaveUp _ _ ih => exact ih.append [] fun _ => List.not_mem_nil
  | @asked op p j clock answer _ hp _ ih =>
    cases hdue : p.isDue with
    | true =>
      obtain ⟨d, rfl⟩ := hp hdue
      rw [hdue] at ih
      exact ih.sleep d
    | false =>
      rw [hdue] at ih
      exact ih.cons nofun
  | remarked he hp _ ih =>
    rw [hp] at ih ⊢
    exact ih.cons (Event.not_counting he).2
  | opened _ _ ih | attacked _ ih => exact ih.cons nofun
  | told he _ ih => exact ih.cons (Event.not_counting (Event.isRemark_of_tellsAuto he)).2
  | turnEnded _ ih => exact ih.turnEnded
  | looked ha _ ih => exact ih.looked ha
  | dispatched ha _ ih => exact (ih.looked ha).cons nofun

end Ordered

namespace Fight

/-- How the journal of a fight came about: the battle was not begun, or it was stopped. -/
inductive InOrder : Fight → Prop
  | notBegun (h : Ordered .full [] .free f.journal) : InOrder f
  | stopped {b : Battle} (h : Stops .full [] halt b.journal) (hf : f = b.stopped warnings halt) :
    InOrder f

theorem ofScript_inOrder (cfg : Settings) (rounds : Nat) (script : Script) (screen : Screen) :
    InOrder (ofScript cfg rounds script screen) := by
  have hanchor : Play.Orderly .full .free (Play.findAnchor cfg) fun _ => .free :=
    .quiet rfl (Play.findAnchor.quiet cfg)
  have hdrive : Play.Orderly .full .free (Play.drive cfg rounds script.commands) fun _ => .free :=
    Play.drive.orderly cfg trivial trivial rounds script.commands
  unfold ofScript
  match h : (Play.findAnchor cfg).run.run (.start screen) with
  | (.error halt, b) => exact .stopped ((hanchor []).of_error .start h) rfl
  | (.ok false, b) => exact .notBegun ((hanchor []).of_ok .start h)
  | (.ok true, b₀) =>
    have h₀ : Ordered .full [] .free b₀.journal := (hanchor []).of_ok .start h
    match h : (Play.drive cfg rounds script.commands).run.run b₀ with
    | (.ok never, _) => exact nomatch never
    | (.error halt, b) =>
      simp only [h]
      exact .stopped ((hdrive []).of_error h₀ h) rfl

theorem run_inOrder (cfg : Settings) (rounds : Nat) (lines : List String) (screen : Screen) :
    InOrder (run cfg rounds lines screen) := by
  unfold run
  split
  · exact .notBegun .start
  · split
    · exact .notBegun .start
    · exact ofScript_inOrder cfg rounds _ screen

/-! ### The end that is found -/

/-- An outcome that was found is the end of the fight, where `rest` came after it: no command and
no turn is counted any more, and nothing is sent but the reload that dismisses a battle which
concluded of itself. -/
structure EndsBy (f : Fight) (outcome : Outcome) (rest : Journal) : Prop where
  result : (∃ report, f.result = .ok report ∧ report.outcome = outcome) ∨
    outcome = .battleConcluded ∧ f.result = .error .overflow
  noCommand : ∀ turn command, .event (.dispatched turn command) ∉ rest
  noTurn : ∀ turn, .event (.turnEnded turn) ∉ rest
  sent : rest.sent = [] ∨ outcome = .battleConcluded ∧ ∃ p, rest.sent = [.click "reload" p]

/-- What comes after a turn that was counted. Only a fight that is cut short may have no look for
an end there. -/
inductive AfterTurn (f : Fight) : Journal → Prop
  | cut (hs : later.Sleeps) (hr : f.result = .error .overflow ∨ f.result = .error .unfinished) :
    AfterTurn f later
  | goesOn (h : later.SawNoEnd) : AfterTurn f later
  | found (ha : Answers (some outcome) answers) (hs : sleeps.Sleeps)
      (hend : EndsBy f outcome rest) : AfterTurn f (rest ++ .ofLook clock answers ++ sleeps)

structure LooksForEnd (f : Fight) : Prop where
  beforeCommand : f.journal.LooksBefore
  afterTurn : ∀ (later : Journal) turn earlier,
    f.journal = later ++ .event (.turnEnded turn) :: earlier → f.AfterTurn later

/-! A fight that was stopped ends by what the last look has found. -/

variable {f : Fight} {j rest : Journal} {outcome : Outcome}

theorem afterTurn_of_sleeps_or {later : Journal}
    (hr : f.result = .error .overflow ∨ f.result = .error .unfinished)
    (h : due = true ∧ later.Sleeps ∨ later.SawNoEnd) : f.AfterTurn later := by
  rcases h with ⟨-, hs⟩ | h
  · exact .cut hs hr
  · exact .goesOn h

theorem afterTurn_of_found (ha : Answers (some outcome) answers) (h : Ordered .full [] .due j)
    (hend : EndsBy f outcome rest) (hj : f.journal = rest ++ Journal.ofLook clock answers ++ j) :
    ∀ (later : Journal) turn earlier,
      f.journal = later ++ .event (.turnEnded turn) :: earlier → f.AfterTurn later := by
  intro later turn earlier hsplit
  have hnew : .event (.turnEnded turn) ∉ rest ++ Journal.ofLook clock answers := by
    rw [List.mem_append]
    rintro (hmem | hmem)
    · exact hend.noTurn turn hmem
    · exact Journal.event_not_mem_ofLook hmem
  rw [hj] at hsplit
  obtain ⟨more, rfl, hmore⟩ := Journal.split_of_not_mem hnew hsplit
  rcases h.looksAfter more turn earlier hmore with ⟨-, hs⟩ | h
  · exact .found ha hs hend
  · exact .goesOn (h.append _)

theorem endsBy_ended {d : Journal} (turn : Nat)
    (hr : ∃ report, f.result = .ok report ∧ report.outcome = outcome)
    (hevent : ∀ e, .event e ∉ d)
    (hsent : d.sent = [] ∨ outcome = .battleConcluded ∧ ∃ p, d.sent = [.click "reload" p]) :
    EndsBy f outcome (.event (.ended turn outcome) :: d) where
  result := .inl hr
  noCommand turn' command := by simpa using hevent (.dispatched turn' command)
  noTurn turn' := by simpa using hevent (.turnEnded turn')
  sent := hsent

/-- The fight that was stopped by what a look has found. -/
theorem stopped_of_found {b : Battle} (h : EndFound base halt j) (hj : b.journal = j)
    (warnings : List Warning) : ∃ outcome answers clock rest, Answers (some outcome) answers ∧
      EndsBy (b.stopped warnings halt) outcome rest ∧
      (b.stopped warnings halt).journal = rest ++ Journal.ofLook clock answers ++ base := by
  cases h with
  | @ended outcome answers clock ha ho =>
    have hend : EndsBy (b.stopped warnings (.ended outcome)) outcome
        [.event (.ended b.state.currentTurn outcome)] :=
      endsBy_ended _ ⟨_, rfl, rfl⟩ (fun _ => List.not_mem_nil) (.inl rfl)
    exact ⟨outcome, answers, clock, _, ha, hend, congrArg (_ :: ·) hj⟩
  | @dismissed answers d halt clock ha hd hh =>
    have hsent : Journal.sent d = [] ∨
        Outcome.battleConcluded = .battleConcluded ∧ ∃ p, Journal.sent d = [.click "reload" p] :=
      hd.sent.imp_right fun h => ⟨rfl, h⟩
    rcases hh with rfl | rfl
    · have hend : EndsBy (b.stopped warnings (.ended .battleConcluded)) .battleConcluded
          (.event (.ended b.state.currentTurn .battleConcluded) :: d) :=
        endsBy_ended _ ⟨_, rfl, rfl⟩ (fun _ => hd.event_not_mem) hsent
      exact ⟨.battleConcluded, answers, clock, _, ha, hend, congrArg (_ :: ·) hj⟩
    · have hend : EndsBy (b.stopped warnings .overflow) .battleConcluded d :=
        ⟨.inr ⟨rfl, rfl⟩, fun _ _ => hd.event_not_mem, fun _ => hd.event_not_mem, hsent⟩
      exact ⟨.battleConcluded, answers, clock, d, ha, hend, hj⟩

/-- A fight that was stopped has its journal from the battle, with the end noted. -/
theorem stopped_looksForEnd {b : Battle} (h : Stops .full [] halt b.journal) :
    (b.stopped warnings halt).LooksForEnd := by
  cases h with
  | overflow h =>
    refine ⟨h.looksBefore, fun later turn earlier hsplit => ?_⟩
    exact afterTurn_of_sleeps_or (.inl rfl) (h.looksAfter later turn earlier hsplit)
  | unfinished _ h =>
    refine ⟨h.looksBefore, fun later turn earlier hsplit => ?_⟩
    exact afterTurn_of_sleeps_or (.inr rfl) (h.looksAfter later turn earlier hsplit)
  | found h hf =>
    obtain ⟨outcome, answers, clock, rest, ha, hend, hj⟩ := stopped_of_found hf rfl warnings
    refine ⟨?_, afterTurn_of_found ha h hend hj⟩
    have hlook := h.looksBefore.append (Journal.ofLook clock answers)
      fun _ _ => Journal.event_not_mem_ofLook
    rw [hj, List.append_assoc]
    exact hlook.append rest hend.noCommand
  | movedOn _ h =>
    have hafter : Journal.LooksAfter false
        (.event (.ended b.state.currentTurn .battleConcluded) :: b.journal) :=
      h.looksAfter.cons nofun
    refine ⟨h.looksBefore.cons nofun, fun later turn earlier hsplit => ?_⟩
    rcases hafter later turn earlier hsplit with ⟨hdue, -⟩ | h
    · exact absurd hdue Bool.false_ne_true
    · exact .goesOn h

/-- In every fight an end is looked for in time, and the first that is found ends it. -/
theorem run_looksForEnd (cfg : Settings) (rounds : Nat) (lines : List String) (screen : Screen) :
    (run cfg rounds lines screen).LooksForEnd := by
  cases run_inOrder cfg rounds lines screen with
  | notBegun h =>
    refine ⟨h.looksBefore, fun later turn earlier hsplit => ?_⟩
    rcases h.looksAfter later turn earlier hsplit with ⟨hdue, -⟩ | h
    · cases hdue
    · exact .goesOn h
  | stopped h hf => exact hf ▸ stopped_looksForEnd h

end Fight
end BattlePilot
