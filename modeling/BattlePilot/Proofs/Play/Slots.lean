import BattlePilot.Battle.Play
import BattlePilot.Proofs.Script.Lines
import BattlePilot.Settings.Validation

/-! Slots by kind and number: their labels, where they lie, and which of them a script can name.
These are the slots for which checked settings have an entry. -/

namespace BattlePilot

inductive SlotKind where
  | character
  | skill
  | summon
  | ally
  | enemy
  deriving DecidableEq

namespace SlotKind

def all : List SlotKind := [character, skill, summon, ally, enemy]

theorem mem_all (kind : SlotKind) : kind ∈ all := by
  cases kind <;> decide

/-- What the labels of the slots begin with. -/
def label : SlotKind → String
  | character => "character"
  | skill => "skill"
  | summon => "summon"
  | ally => "ally"
  | enemy => "enemy"

/-- How many slots a script can name. -/
def limit : SlotKind → Nat
  | character => Slot.characters
  | skill => Slot.skills
  | summon => Slot.summons
  | ally => Slot.allies
  | enemy => Slot.enemies

def table (l : Layout) : SlotKind → List Offset
  | character => l.characters
  | skill => l.skills
  | summon => l.summons
  | ally => l.allyTargets
  | enemy => l.enemies

/-- The element around which the slots lie. -/
def origin : SlotKind → String
  | ally => "select_a_character"
  | _ => "attack"

/-! ### Labels -/

def slotLabel (kind : SlotKind) (n : Nat) : String :=
  kind.label ++ Numeral.text n

theorem toList_slotLabel (kind : SlotKind) (n : Nat) :
    (kind.slotLabel n).toList = kind.label.toList ++ Numeral.digits n := by
  rw [slotLabel, Numeral.text, String.toList_append, String.toList_ofList]

/-- The digits of a label are those of its number. -/
theorem filter_slotLabel (kind : SlotKind) (n : Nat) :
    (kind.slotLabel n).toList.filter Numeral.isDigit = Numeral.digits n := by
  have hword : kind.label.toList.filter Numeral.isDigit = [] := by cases kind <;> decide
  rw [toList_slotLabel, List.filter_append, hword, List.nil_append, List.filter_eq_self]
  intro c hc
  exact Numeral.isDigit_of_mem_digits hc

theorem slotLabel_injective {kind kind' : SlotKind} {n n' : Nat}
    (h : kind.slotLabel n = kind'.slotLabel n') : kind = kind' ∧ n = n' := by
  have hdigits : Numeral.digits n = Numeral.digits n' := by
    rw [← filter_slotLabel kind, h, filter_slotLabel]
  have hnumber : n = n' := by
    rw [← Numeral.value_digits n, hdigits, Numeral.value_digits]
  subst hnumber
  have hword : kind.label.toList = kind'.label.toList := by
    rw [← List.append_left_inj (Numeral.digits n), ← toList_slotLabel, h, toList_slotLabel]
  have hkinds : ∀ k ∈ all, ∀ k' ∈ all, k.label.toList = k'.label.toList → k = k' := by decide
  exact ⟨hkinds kind (mem_all kind) kind' (mem_all kind') hword, rfl⟩

/-- Whether a label begins like those of the slots. -/
def begins (kind : SlotKind) (label : String) : Bool :=
  (Script.after? kind.label label.toList).any fun rest => rest.head?.any Numeral.isDigit

theorem begins_slotLabel (kind : SlotKind) (n : Nat) : kind.begins (kind.slotLabel n) = true := by
  have hafter : Script.after? kind.label (kind.slotLabel n).toList = some (Numeral.digits n) :=
    Script.after?_eq_some_iff.2 (toList_slotLabel kind n)
  obtain ⟨c, rest, hdigits⟩ := List.exists_cons_of_ne_nil (Numeral.digits_ne_nil n)
  have hc : Numeral.isDigit c = true :=
    Numeral.isDigit_of_mem_digits (n := n) (hdigits ▸ List.mem_cons_self)
  rw [begins, hafter, hdigits]
  exact hc

end SlotKind

/-- Whether a label begins like that of a slot of some kind. -/
def namesSlot (label : String) : Bool :=
  SlotKind.all.any (·.begins label)

theorem ne_slotLabel {label : String} (h : namesSlot label = false) (kind : SlotKind) (n : Nat) :
    label ≠ kind.slotLabel n := by
  rintro rfl
  have hnone := List.any_eq_false.1 h kind kind.mem_all
  exact hnone (kind.begins_slotLabel n)

namespace Layout

variable {l : Layout}

def offset? (l : Layout) (kind : SlotKind) (n : UInt8) : Option Offset :=
  slotOffset? (kind.table l) n

theorem offset?_eq_some_iff :
    l.offset? kind n = some o ↔ 1 ≤ n.toNat ∧ (kind.table l)[n.toNat - 1]? = some o := by
  have hzero : n = 0 ↔ n.toNat = 0 := UInt8.toNat_inj.symm
  rw [offset?, slotOffset?]
  split
  · next h0 =>
    have := hzero.1 h0
    simp [this]
  · next h0 =>
    have := mt hzero.2 h0
    have hpos : 1 ≤ n.toNat := by omega
    simp [hpos]

/-- The sizes that are checked are the limits of the script. -/
theorem fault?_eq_none_iff :
    l.fault? = none ↔ ∀ kind : SlotKind, (kind.table l).length = kind.limit := by
  have hall : l.fault? = none ↔ ∀ entry ∈ l.tables, entry.2.1.length = entry.2.2 := by
    rw [fault?, Option.map_eq_none_iff, List.find?_eq_none]
    simp
  rw [hall, tables]
  simp only [List.forall_mem_cons]
  constructor
  · rintro ⟨hcharacter, hskill, hsummon, hally, henemy, -⟩ kind
    cases kind <;> assumption
  · intro h
    exact ⟨h .character, h .skill, h .summon, h .ally, h .enemy, List.forall_mem_nil _⟩

theorem isSome_offset?_iff (h : l.fault? = none) :
    (l.offset? kind n).isSome ↔ Slot.Among kind.limit n := by
  rw [offset?, slotOffset?_isSome_iff, fault?_eq_none_iff.1 h kind]
  rfl

end Layout

def SkillOp.slots : SkillOp → List (SlotKind × UInt8)
  | useSkill n => [(.skill, n)]
  | target n => [(.ally, n)]
  | _ => []

/-- The slots that a command names, in order. -/
def Command.slots : Command → List (SlotKind × UInt8)
  | character n ops => (.character, n) :: ops.flatMap SkillOp.slots
  | summon n _ => [(.summon, n)]
  | item _ target => target.toList.map (.character, ·)
  | targetEnemy n => [(.enemy, n)]
  | _ => []

theorem Command.InRange.slots {c : Command} (h : c.InRange) :
    ∀ s ∈ c.slots, Slot.Among s.1.limit s.2 := by
  cases c with
  | character n ops =>
    refine List.forall_mem_cons.2 ⟨h.1, List.forall_mem_flatMap.2 fun op hop => ?_⟩
    have hop := h.2 op hop
    cases op with
    | useSkill | target => exact List.forall_mem_singleton.2 hop
    | wait | attack => exact List.forall_mem_nil _
  | item i target =>
    cases target with
    | none => exact List.forall_mem_nil _
    | some n => exact List.forall_mem_singleton.2 h.2
  | summon | targetEnemy => exact List.forall_mem_singleton.2 h
  | _ => exact List.forall_mem_nil _

end BattlePilot
