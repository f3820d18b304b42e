import BattlePilot.Proofs.Play.Slots
import BattlePilot.Proofs.Play.Speaking

/-! Accounts of a chain: what is told of its links, from left to right. A skill is used, and each
target either is picked for the skill right before it, which asks for one, or is noted as one that
nobody asked for. -/

namespace BattlePilot

namespace SkillOp

/-- The links before the first attack. -/
def untilAttack (ops : List SkillOp) : List SkillOp := ops.takeWhile (· != .attack)

variable {ops : List SkillOp}

theorem attack_not_mem_untilAttack (ops : List SkillOp) : .attack ∉ untilAttack ops := by
  intro h
  have hne := List.mem_takeWhile_imp h
  simp at hne

theorem untilAttack_of_not_mem (h : .attack ∉ ops) : untilAttack ops = ops := by
  rw [untilAttack, List.takeWhile_eq_self_iff]
  intro op hop
  rw [bne_iff_ne]
  rintro rfl
  exact h hop

theorem exists_of_attack_mem (h : .attack ∈ ops) :
    ∃ after, ops = untilAttack ops ++ .attack :: after := by
  induction ops with
  | nil => cases h
  | cons op rest ih =>
    by_cases hop : op = .attack
    · subst hop
      exact ⟨rest, rfl⟩
    · obtain ⟨after, hrest⟩ := ih ((List.mem_cons.1 h).resolve_left (Ne.symm hop))
      refine ⟨after, ?_⟩
      have hcons : untilAttack (op :: rest) = op :: untilAttack rest :=
        List.takeWhile_cons_of_pos (by simpa using hop)
      rw [hcons]
      exact congrArg (op :: ·) hrest

def skill? : SkillOp → Option UInt8
  | useSkill skill => some skill
  | _ => none

def isSkill : SkillOp → Bool
  | useSkill _ => true
  | _ => false

def isTarget : SkillOp → Bool
  | target _ => true
  | _ => false

/-- The labels of the skills that are used in a chain. -/
def skillLabels (ops : List SkillOp) : List String :=
  (ops.filterMap skill?).map (Play.slotLabel "skill")

end SkillOp

namespace ChainNote

/-- The label of a skill that is clicked. -/
def skill? : ChainNote → Option String
  | clicked label => if SlotKind.skill.begins label then some label else none
  | _ => none

/-- A target that nobody asked for. -/
def isUnasked : ChainNote → Bool
  | noted (.recovered _ (.targetNotRequested ..)) => true
  | _ => false

def isSealed : ChainNote → Bool
  | noted (.recovered _ (.skillSealed ..)) => true
  | _ => false

/-- What is told of a skill that may be sealed: this is noted, and what says so is closed if it
can be. -/
def ofSealed (turn : Nat) (slot skill : UInt8) : (closed : Option Bool) → List ChainNote
  | none => []
  | some closed => .noted (.recovered turn (.skillSealed slot skill)) :: clickIf closed "cancel"

/-- What is told of picking an ally: where to do so is looked for so many times, and the ally is
clicked if it is found. -/
def ofAlly (ally : UInt8) (looks : Nat) (found : Bool) : List ChainNote :=
  List.replicate looks .sought ++ clickIf found (Play.slotLabel "ally" ally)

@[simp] theorem skill?_skill (skill : UInt8) :
    ChainNote.skill? (.clicked (Play.slotLabel "skill" skill)) =
      some (Play.slotLabel "skill" skill) :=
  if_pos (SlotKind.skill.begins_slotLabel skill.toNat)

/-- A slot of another kind is no skill. -/
theorem skill?_slot (kind : SlotKind) (h : kind ≠ .skill) (n : UInt8) :
    ChainNote.skill? (.clicked (Play.slotLabel kind.label n)) = none := by
  have hbegins : SlotKind.skill.begins (kind.slotLabel n.toNat) = false := by
    rw [SlotKind.begins, SlotKind.toList_slotLabel]
    cases kind with
    | skill => exact absurd rfl h
    | _ => rfl
  exact if_neg (ne_true_of_eq_false hbegins)

variable (turn : Nat) (slot skill ally : UInt8) (closed : Option Bool) (looks : Nat) (found : Bool)

@[simp] theorem filterMap_skill?_ofSealed :
    (ofSealed turn slot skill closed).filterMap skill? = [] := by
  cases closed with
  | none => rfl
  | some closed => cases closed <;> rfl

@[simp] theorem filterMap_skill?_ofAlly :
    (ofAlly ally looks found).filterMap skill? = [] := by
  have hlooks : (List.replicate looks sought).filterMap skill? = [] := by
    rw [List.filterMap_eq_nil_iff]
    intro note hnote
    rw [List.eq_of_mem_replicate hnote]
    rfl
  have hally : skill? (.clicked (Play.slotLabel "ally" ally)) = none := skill?_slot .ally nofun ally
  cases found <;> simp [ofAlly, clickIf, hlooks, hally]

@[simp] theorem count_prompted_ofSealed :
    (ofSealed turn slot skill closed).count .prompted = 0 := by
  cases closed with
  | none => rfl
  | some closed => cases closed <;> rfl

@[simp] theorem count_prompted_ofAlly : (ofAlly ally looks found).count .prompted = 0 := by
  cases found <;> simp [ofAlly, clickIf, List.count_replicate]

@[simp] theorem countP_isUnasked_ofSealed :
    (ofSealed turn slot skill closed).countP isUnasked = 0 := by
  cases closed with
  | none => rfl
  | some closed => cases closed <;> rfl

@[simp] theorem countP_isUnasked_ofAlly : (ofAlly ally looks found).countP isUnasked = 0 := by
  cases found <;> simp [ofAlly, clickIf, List.countP_replicate, isUnasked]

@[simp] theorem countP_isSealed_ofAlly : (ofAlly ally looks found).countP isSealed = 0 := by
  cases found <;> simp [ofAlly, clickIf, List.countP_replicate, isSealed]

theorem countP_isSealed_ofSealed : (ofSealed turn slot skill closed).countP isSealed ≤ 1 := by
  cases closed with
  | none => exact Nat.zero_le 1
  | some closed => cases closed <;> exact Nat.le_refl 1

end ChainNote

open ChainNote in
/-- What is told of the links of a chain, where `last` is the skill used before them. -/
inductive Accounts (turn : Nat) (slot : UInt8) :
    (last : UInt8) → List SkillOp → List ChainNote → Prop
  | done {last : UInt8} : Accounts turn slot last [] []
  /-- A skill is used that asks for no target. -/
  | used {last skill : UInt8} {rest : List SkillOp} {notes : List ChainNote}
      (closed : Option Bool) (h : Accounts turn slot skill rest notes) :
    Accounts turn slot last (.useSkill skill :: rest)
      (.clicked (Play.slotLabel "skill" skill) :: (ofSealed turn slot skill closed ++ notes))
  /-- A skill asks for the target right after it, which is to be picked. -/
  | aimed {last skill ally : UInt8} {rest : List SkillOp} {notes : List ChainNote} {looks : Nat}
      (found : Bool) (hlooks : 0 < looks) (h : Accounts turn slot skill rest notes) :
    Accounts turn slot last (.useSkill skill :: .target ally :: rest)
      (.clicked (Play.slotLabel "skill" skill) :: .prompted :: (ofAlly ally looks found ++ notes))
  | unasked {last ally : UInt8} {rest : List SkillOp} {notes : List ChainNote}
      (h : Accounts turn slot last rest notes) :
    Accounts turn slot last (.target ally :: rest)
      (.noted (.recovered turn (.targetNotRequested slot last)) :: notes)
  | waited {last : UInt8} {d : Span} {rest : List SkillOp} {notes : List ChainNote}
      (h : Accounts turn slot last rest notes) : Accounts turn slot last (.wait d :: rest) notes

/-- What is told of a chain from one of its links on: an account of what is left, and then the
button that leads back may be clicked. -/
def ChainTold (turn : Nat) (slot last : UInt8) (ops : List SkillOp) (word : List ChainNote) :
    Prop :=
  ∃ notes left, Accounts turn slot last ops notes ∧ word = notes ++ ChainNote.clickIf left "back"

/-! ### What an account says -/

namespace Accounts

variable {turn : Nat} {slot last : UInt8} {ops : List SkillOp} {notes : List ChainNote}

/-- The skills that are clicked are those of the chain, in order. -/
theorem skills (h : Accounts turn slot last ops notes) :
    notes.filterMap ChainNote.skill? = SkillOp.skillLabels ops := by
  induction h with
  | done => rfl
  | used _ _ ih =>
    rw [List.filterMap_cons_some (ChainNote.skill?_skill _), List.filterMap_append,
      ChainNote.filterMap_skill?_ofSealed]
    exact congrArg _ ih
  | aimed _ _ _ ih =>
    rw [List.filterMap_cons_some (ChainNote.skill?_skill _), List.filterMap_cons_none rfl,
      List.filterMap_append, ChainNote.filterMap_skill?_ofAlly]
    exact congrArg _ ih
  | unasked _ ih | waited _ ih => exact ih

/-- Each target is picked for a skill that asks for it, or noted as one that nobody asked for. -/
theorem targets (h : Accounts turn slot last ops notes) :
    notes.count .prompted + notes.countP ChainNote.isUnasked = ops.countP SkillOp.isTarget := by
  induction h with
  | done => rfl
  | used _ _ ih => simpa [List.countP_cons, SkillOp.isTarget, ChainNote.isUnasked] using ih
  | aimed _ _ _ ih | unasked _ ih =>
    simp [List.countP_cons, SkillOp.isTarget, ChainNote.isUnasked]
    omega
  | waited _ ih => simpa [List.countP_cons, SkillOp.isTarget] using ih

/-- A skill is sealed once at most, and none that gets its target is. -/
theorem seals (h : Accounts turn slot last ops notes) :
    notes.countP ChainNote.isSealed + notes.count .prompted ≤ ops.countP SkillOp.isSkill := by
  induction h with
  | done => exact Nat.le_refl _
  | @used _ skill _ _ closed _ ih =>
    have hsealed := ChainNote.countP_isSealed_ofSealed turn slot skill closed
    simp [List.countP_cons, SkillOp.isSkill, ChainNote.isSealed]
    omega
  | aimed _ _ _ ih =>
    simp [List.countP_cons, SkillOp.isSkill, ChainNote.isSealed]
    omega
  | unasked _ ih | waited _ ih =>
    simpa [List.countP_cons, SkillOp.isSkill, ChainNote.isSealed] using ih

end Accounts

/-- What is told of a chain as a whole: that the character is opened, and an account of the links.
The skills that are clicked are those of the chain, in order; each target is picked for the skill
before it or noted as one that nobody asked for; and a skill is sealed once at most, if it did not
get a target. -/
structure Chained (turn : Nat) (slot : UInt8) (ops : List SkillOp) (notes : List ChainNote) :
    Prop where
  told : ∃ word, ChainTold turn slot 0 ops word ∧
    notes = .clicked (Play.slotLabel "character" slot) :: word
  skills : notes.filterMap ChainNote.skill? = SkillOp.skillLabels ops
  targets : notes.count .prompted + notes.countP ChainNote.isUnasked = ops.countP SkillOp.isTarget
  seals : notes.countP ChainNote.isSealed + notes.count .prompted ≤ ops.countP SkillOp.isSkill

theorem Accounts.chained {turn : Nat} {slot : UInt8} {ops : List SkillOp}
    {notes : List ChainNote} (h : Accounts turn slot 0 ops notes) (left : Bool) :
    Chained turn slot ops (.clicked (Play.slotLabel "character" slot) ::
      (notes ++ ChainNote.clickIf left "back")) where
  told := ⟨_, ⟨notes, left, h, rfl⟩, rfl⟩
  skills := by
    have hcharacter : ChainNote.skill? (.clicked (Play.slotLabel "character" slot)) = none :=
      ChainNote.skill?_slot .character nofun slot
    rw [List.filterMap_cons_none hcharacter, List.filterMap_append, h.skills]
    cases left <;> exact List.append_nil _
  targets := by
    rw [← h.targets]
    cases left <;> simp [ChainNote.clickIf, ChainNote.isUnasked]
  seals := by
    refine Nat.le_trans ?_ h.seals
    cases left <;> simp [ChainNote.clickIf, ChainNote.isSealed]

/-! ### The clicks on skills -/

def Entry.skillClick? (e : Entry) : Option String := e.chainNote?.bind ChainNote.skill?

/-- The labels of the skills that were clicked, the first one first. -/
def Journal.skillClicks (j : Journal) : List String := j.reverse.filterMap Entry.skillClick?

theorem Journal.skillClicks_eq (j : Journal) :
    j.skillClicks = j.chainNotes.filterMap ChainNote.skill? :=
  List.filterMap_filterMap.symm

theorem Battle.Spoken.skillClicks {b b' : Battle} {notes : List ChainNote}
    (h : b.Spoken notes b') : b'.journal.skillClicks =
      b.journal.skillClicks ++ notes.filterMap ChainNote.skill? := by
  obtain ⟨new, hnew, rfl, -⟩ := h
  rw [hnew.journal, Journal.skillClicks_eq, Journal.chainNotes_append, List.filterMap_append,
    ← Journal.skillClicks_eq]

/-- What names no skill does not tell that one is clicked. -/
theorem ScreenOp.Concerns.skillClick?_eq_none {op : ScreenOp}
    (h : op.Concerns (SlotKind.skill.begins · = false)) (clock : Span) (answer : ScreenAnswer) :
    Entry.skillClick? (.call clock op answer) = none := by
  rw [Entry.skillClick?, Option.bind_eq_none_iff]
  intro note hnote
  rw [Entry.chainNote?, ScreenOp.chainNote?] at hnote
  split at hnote
  · split at hnote <;> cases hnote
    rfl
  split at hnote
  · cases hnote
    rfl
  obtain ⟨label, hlabel, rfl⟩ := Option.map_eq_some_iff.1 hnote
  have hname : op.name? = some label := by
    cases op with
    | input i => exact hlabel
    | _ => cases hlabel
  exact if_neg (ne_true_of_eq_false (h label hname))

end BattlePilot
