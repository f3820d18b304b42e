import BattlePilot.Proofs.Play.Within

/-! Things done aside. Most of what is done in a battle asks something of the screen, clicks a
button that changes nothing for the turn, or notes a setback: the state of the battle stays. The
relation `Battle.Aside` has one case for each such thing, and a course is `Quiet` if it does
nothing else. -/

namespace BattlePilot

/-- Labels whose clicks submit a turn, cut it short, go on to the next battle or retreat. -/
def weighty : List String := ["attack", "home_back", "next", "retreat_confirmation"]

def isWeighty (label : String) : Bool := weighty.contains label

/-- Operations that leave the battle where it is; of the weighty labels they click only those
in `W`. -/
def ScreenOp.Light (W : String → Prop) : ScreenOp → Prop
  | .input (.click label _) | .input (.doubleClick label _) => isWeighty label = false ∨ W label
  | .input .home | .hide _ => False
  | _ => True

/-- What it takes to recover from an attack that stalls: of all buttons the reload button alone is
clicked. -/
def ScreenOp.Mends : ScreenOp → Prop
  | .input (.click label _) => label = "reload"
  | .input _ | .hide _ => False
  | _ => True

theorem ScreenOp.Mends.light {op : ScreenOp} (h : op.Mends) : op.Light W := by
  cases op with
  | input i =>
    cases i with
    | click =>
      cases h
      exact .inl rfl
    | _ => cases h
  | hide => cases h
  | _ => trivial

theorem ScreenOp.Presses.mends {op : ScreenOp} (h : op.Presses "reload") : op.Mends := by
  cases op with
  | input i =>
    cases i with
    | click => exact h
    | _ => cases h
  | find | sleep => trivial
  | _ => cases h

theorem ScreenOp.Presses.light {op : ScreenOp} (h : isWeighty name = false ∨ W name)
    (hop : op.Presses name) : op.Light W := by
  cases op with
  | input i =>
    cases i with
    | click => exact hop ▸ h
    | _ => cases hop
  | find | sleep => trivial
  | _ => cases hop

namespace Battle

inductive Aside (W : String → Prop) : Battle → Battle → Prop
  | ask (h : Ask (ScreenOp.Light W) b b') : Aside W b b'
  | setback (s : Setback) : Aside W b (b.noted (.recovered b.state.currentTurn s))
  | reloaded (reason : ReloadReason) :
    Aside W b (b.noted (.reloaded b.state.currentTurn reason))
  /-- The anchor moves to where the attack button was just found. -/
  | aim (h : b.journal.head? = some (.call clock (.find "attack") (.position (some p)))) :
    Aside W b { b with anchor := p }

/-- A step of recovering from an attack that stalls. -/
inductive Mend : Battle → Battle → Prop
  | ask (h : Ask ScreenOp.Mends b b') : Mend b b'
  | lost : Mend b (b.noted (.recovered b.state.currentTurn .anchorLost))
  | reloaded (reason : ReloadReason) : Mend b (b.noted (.reloaded b.state.currentTurn reason))
  | aim (h : b.journal.head? = some (.call clock (.find "attack") (.position (some p)))) :
    Mend b { b with anchor := p }

theorem Mend.aside (h : Mend b b') : Aside W b b' := by
  cases h with
  | ask h => exact .ask (h.mono fun _ => ScreenOp.Mends.light)
  | lost => exact .setback .anchorLost
  | reloaded reason => exact .reloaded reason
  | aim h => exact .aim h

abbrev Asides (W : String → Prop) : Battle → Battle → Prop :=
  Relation.ReflTransGen (Aside W)

theorem Aside.state (h : Aside W b b') : b'.state = b.state := by
  cases h with
  | ask h => exact h.state
  | _ => rfl

theorem Asides.state (h : Asides W b b') : b'.state = b.state := by
  induction h with
  | refl => rfl
  | tail _ h ih => exact h.state.trans ih

theorem Mends.state (h : Relation.ReflTransGen Mend b b') : b'.state = b.state := by
  induction h with
  | refl => rfl
  | tail _ h ih => exact h.aside (W := fun _ => True) |>.state.trans ih

end Battle

namespace Play
open Battle Relation

variable {W : String → Prop}

/-- A course that only does things aside, and does not end the battle. -/
abbrev Quiet (W : String → Prop) (m : Play α) : Prop := Within (Aside W) m

theorem Within.quiet {m : Play α} (hm : Within (Ask (ScreenOp.Light W)) m) : Quiet W m :=
  hm.mono fun _ _ => .ask

/-! ### Asking aside -/

theorem look.quiet (name : String) : Quiet W (look name) := (look.asks trivial).quiet

theorem sees.quiet (name : String) : Quiet W (sees name) := (sees.asks trivial).quiet

theorem lookAll.quiet (name : String) : Quiet W (lookAll name) := (lookAll.asks trivial).quiet

theorem waitVanish.quiet (name : String) (timeout : Span) : Quiet W (waitVanish name timeout) :=
  (waitVanish.asks trivial).quiet

theorem click.quiet {label : String} (h : isWeighty label = false ∨ W label) (position : Point) :
    Quiet W (send (.click label position)) := (send.asks h).quiet

theorem scroll.quiet (position : Point) (amount : Int) : Quiet W (scroll position amount) :=
  Within.quiet (send.asks trivial)

theorem wait.quiet (d : Span) : Quiet W (wait d) := (wait.asks trivial).quiet

theorem setback.quiet (s : Setback) : Quiet W (setback s) := .step fun _ => .setback s

section

variable (cfg : Settings)

theorem find.quiet (name : String) (tries : Nat) : Quiet W (find cfg name tries) :=
  (find.asks cfg trivial (fun _ => trivial) _).quiet

theorem confirm.quiet (name : String) (tries : Nat) : Quiet W (confirm cfg name tries) :=
  (confirm.asks cfg trivial (fun _ => trivial) _).quiet

theorem findAndClick.light {name : String} (h : isWeighty name = false ∨ W name) (tries : Nat) :
    Within (Ask (ScreenOp.Light W)) (findAndClick cfg name tries) :=
  (findAndClick.asks cfg tries).mono fun _ _ ha => ha.mono fun _ => ScreenOp.Presses.light h

theorem press.light {name : String} (h : isWeighty name = false ∨ W name) :
    Within (Ask (ScreenOp.Light W)) (press cfg name) :=
  .discard (findAndClick.light cfg h _)

theorem findAndClick.quiet {name : String} (h : isWeighty name = false ∨ W name) (tries : Nat) :
    Quiet W (findAndClick cfg name tries) :=
  (findAndClick.light cfg h tries).quiet

theorem press.quiet {name : String} (h : isWeighty name = false ∨ W name) :
    Quiet W (press cfg name) :=
  .discard (findAndClick.quiet cfg h _)

end

/-! ### Slots -/

theorem beside.quiet (position : Point) (offset : Offset) : Quiet W (beside position offset) :=
  beside.within position offset

theorem clickSlot.quiet {kind : String} {slot : UInt8} (h : isWeighty (slotLabel kind slot) = false)
    (offset : Offset) : Quiet W (clickSlot kind slot offset) :=
  .get_bind fun _ => .bind (beside.quiet _ _) fun _ => click.quiet (.inl h) _

theorem doubleClickSlot.quiet {kind : String} {slot : UInt8}
    (h : isWeighty (slotLabel kind slot) = false) (offset : Offset) :
    Quiet W (doubleClickSlot kind slot offset) :=
  .get_bind fun _ => .bind (beside.quiet _ _) fun _ => Within.quiet (send.asks (.inl h))

/-- A label is not weighty if no weighty label begins like its kind. -/
theorem slotLabel_light {kind : String} (hk : kind.toList.take 2 = [c, d])
    (h : (weighty.map (·.toList.take 2)).contains [c, d] = false) (slot : UInt8) :
    isWeighty (slotLabel kind slot) = false := by
  rw [isWeighty, List.contains_eq_mem, decide_eq_false_iff_not]
  intro hm
  have hlen : 2 ≤ kind.toList.length := by
    have := congrArg List.length hk
    rw [List.length_take, List.length_cons, List.length_cons, List.length_nil] at this
    omega
  have hm := List.mem_map_of_mem (f := (·.toList.take 2)) hm
  rw [slotLabel, String.toList_append, List.take_append_of_le_length hlen, hk] at hm
  rw [List.contains_eq_mem, decide_eq_false_iff_not] at h
  exact h hm

end Play
end BattlePilot
