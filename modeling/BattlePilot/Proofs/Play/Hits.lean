import BattlePilot.Battle.Fight
import BattlePilot.Proofs.Play.Keeping
import BattlePilot.Proofs.Play.QuietCourses
import BattlePilot.Proofs.Play.Slots
import BattlePilot.Proofs.Screen.Received

/-! Clicks on slots that hit. Elements never move, so that the slots stay where the layout puts them
around an element of the screen on which the battle began; a course `Hits` if every click that it
makes on a slot is made there, whatever comes of the course. -/

namespace BattlePilot

def Input.click? : Input → Option (String × Point)
  | click label position | doubleClick label position => some (label, position)
  | _ => none

/-- Whether a click that bears the label of a slot is where the layout puts the slot. -/
def Input.OnSlot (l : Layout) (screen : Screen) (i : Input) : Prop :=
  ∀ (kind : SlotKind) n p, i.click? = some (kind.slotLabel n, p) → ∃ offset, 1 ≤ n ∧
    (kind.table l)[n - 1]? = some offset ∧ (screen.position kind.origin).offset? offset = some p

def ScreenOp.OnSlot (l : Layout) (screen : Screen) (op : ScreenOp) : Prop :=
  ∀ i, op = .input i → i.OnSlot l screen

variable {l : Layout} {screen : Screen}

theorem Input.onSlot_of_label {i : Input}
    (h : ∀ label, i.label? = some label → namesSlot label = false) : i.OnSlot l screen := by
  intro kind n p hclick
  cases i with
  | click label position | doubleClick label position =>
    cases hclick
    exact absurd rfl (ne_slotLabel (h _ rfl) kind n)
  | _ => cases hclick

theorem ScreenOp.Presses.onSlot {name : String} {op : ScreenOp} (hname : namesSlot name = false)
    (h : op.Presses name) : op.OnSlot l screen := by
  intro i hi
  subst hi
  apply Input.onSlot_of_label
  intro label hlabel
  cases i with
  | click =>
    cases hlabel
    exact h ▸ hname
  | _ => cases h

theorem ScreenOp.Concerns.onSlot {op : ScreenOp} (h : op.Concerns (namesSlot · = false)) :
    op.OnSlot l screen := by
  intro i hi
  subst hi
  exact Input.onSlot_of_label h

/-- The click on a slot beside the element around which it lies. -/
theorem Input.onSlot_of_offset {kind : SlotKind} {slot : UInt8} {i : Input} {offset : Offset}
    {p : Point} (hoffset : l.offset? kind slot = some offset)
    (hp : (screen.position kind.origin).offset? offset = some p)
    (hi : i.click? = some (Play.slotLabel kind.label slot, p)) : i.OnSlot l screen := by
  intro kind' n p' hclick
  rw [hi] at hclick
  obtain ⟨hlabel, rfl⟩ := Prod.mk.inj (Option.some.inj hclick)
  have hsame : kind.slotLabel slot.toNat = kind'.slotLabel n := hlabel
  obtain ⟨rfl, rfl⟩ := SlotKind.slotLabel_injective hsame
  obtain ⟨hpos, hentry⟩ := Layout.offset?_eq_some_iff.1 hoffset
  exact ⟨offset, hpos, hentry, hp⟩

namespace Battle

/-- The elements are where they were on `screen`, wherever they were found, and all that was sent
since hits the slots. -/
structure Charted (l : Layout) (screen : Screen) (b : Battle) : Prop where
  positions : b.screen.positions = screen.positions
  found : ∀ clock name p, .call clock (.find name) (.position (some p)) ∈ b.journal →
    p = screen.position name
  received : ∃ received, b.screen.inputs = received ++ screen.inputs ∧
    ∀ i ∈ received, i.OnSlot l screen

/-- The slots lie around the attack button. -/
structure Anchored (l : Layout) (screen : Screen) (b : Battle) : Prop extends
    Charted l screen b where
  anchor : b.anchor = screen.position "attack"

variable {b b' : Battle}

theorem Charted.start (l : Layout) (screen : Screen) : (Battle.start screen).Charted l screen where
  positions := rfl
  found _ _ _ hmem := by cases hmem
  received := ⟨[], rfl, List.forall_mem_nil _⟩

theorem Charted.position (hb : b.Charted l screen) (name : String) :
    b.screen.position name = screen.position name := by
  rw [Screen.position, hb.positions]
  rfl

theorem Charted.answered (hb : b.Charted l screen) (hop : op.OnSlot l screen)
    (h : b.screen.perform? op = some (answer, s)) : (b.answered op answer s).Charted l screen where
  positions := (Screen.perform?_positions h).trans hb.positions
  found clock name p hmem := by
    rcases List.mem_cons.1 hmem with heq | hmem
    · cases heq
      exact (Screen.eq_position_of_find h).trans (hb.position name)
    · exact hb.found clock name p hmem
  received := by
    obtain ⟨received, hinputs, hslots⟩ := hb.received
    refine ⟨op.input?.toList ++ received, ?_, ?_⟩
    · rw [List.append_assoc, ← hinputs]
      exact Screen.perform?_inputs h
    · intro i hi
      rcases List.mem_append.1 hi with hi | hi
      · cases op with
        | input j =>
          have hij : i = j := List.mem_singleton.1 hi
          exact hij ▸ hop j rfl
        | _ => cases hi
      · exact hslots i hi

theorem Charted.asked (hb : b.Charted l screen) (h : Ask (ScreenOp.OnSlot l screen) b b') :
    b'.Charted l screen := by
  cases h with
  | mk hop h => exact hb.answered hop h

theorem Charted.noted (hb : b.Charted l screen) (e : Event) : (b.noted e).Charted l screen where
  positions := hb.positions
  found clock name p hmem := by
    rcases List.mem_cons.1 hmem with heq | hmem
    · cases heq
    · exact hb.found clock name p hmem
  received := hb.received

theorem Anchored.asked (hb : b.Anchored l screen) (h : Ask (ScreenOp.OnSlot l screen) b b') :
    b'.Anchored l screen where
  toCharted := hb.toCharted.asked h
  anchor := by
    cases h
    exact hb.anchor

theorem Anchored.noted (hb : b.Anchored l screen) (e : Event) : (b.noted e).Anchored l screen where
  toCharted := hb.toCharted.noted e
  anchor := hb.anchor

/-- The anchor is only ever moved to the attack button. -/
theorem Anchored.timeless : Timeless (namesSlot · = false) (Anchored l screen) where
  asked h hb := hb.asked (h.mono fun _ => ScreenOp.Concerns.onSlot)
  noted _ hb := hb.noted _
  aimed hfound hb := {
    positions := hb.positions
    found := hb.found
    received := hb.received
    anchor := hb.found _ _ _ (List.mem_of_mem_head? hfound) }
  kept hs hj ha _ hb := {
    positions := hs ▸ hb.positions
    found := hj ▸ hb.found
    received := hs ▸ hb.received
    anchor := ha.trans hb.anchor }
  counted hb := hb.noted _
  moved _ hb := { hb with }

end Battle

namespace Play
open Battle Relation

/-- Asking leaves the elements where they are, whether the anchor has been found or not. -/
theorem Within.charted {m : Play α} (hm : Within (Ask (ScreenOp.OnSlot l screen)) m) :
    Triple (Charted l screen) m (fun _ => Charted l screen) fun _ => Charted l screen :=
  (hm.keeps fun h hb => hb.asked h).mono_halt fun _ _ h => h.2

/-- A course whose clicks on slots hit, wherever it stops. -/
abbrev Hits (l : Layout) (screen : Screen) (m : Play α) : Prop :=
  Triple (Anchored l screen) m (fun _ => Anchored l screen) fun _ => Anchored l screen

namespace Hits

theorem pure (a : α) : Hits l screen (Pure.pure a : Play α) := Triple.pure fun _ h => h

theorem bind {m : Play α} {f : α → Play β} (hm : Hits l screen m)
    (hf : ∀ a, Hits l screen (f a)) : Hits l screen (m >>= f) :=
  Triple.bind hm hf

theorem discard {m : Play α} (hm : Hits l screen m) : Hits l screen (Functor.discard m) :=
  Triple.discard hm

theorem get_bind {f : Battle → Play α} (hf : ∀ b, Hits l screen (f b)) :
    Hits l screen (get >>= f) :=
  Triple.get_bind fun b hb => (hf b).mono_start fun _ h => h ▸ hb

theorem turn_bind {f : Nat → Play α} (hf : ∀ n, Hits l screen (f n)) :
    Hits l screen (currentTurn >>= f) :=
  Triple.turn_bind fun b hb => (hf b.state.currentTurn).mono_start fun _ h => h ▸ hb

theorem halt (h : Halt) : Hits l screen (throw h : Play α) := Triple.halt fun _ hb => hb

theorem asks {m : Play α} (hm : Within (Ask (ScreenOp.OnSlot l screen)) m) : Hits l screen m :=
  (hm.keeps fun h hb => hb.asked h).mono_halt fun _ _ h => h.2

theorem either {first second : Play Bool} (hfirst : Hits l screen first)
    (hsecond : Hits l screen second) : Hits l screen (either first second) := by
  apply bind hfirst
  intro found
  split
  · exact pure _
  · exact hsecond

theorem onlyIf {condition : Bool} {m : Play Bool} (hm : Hits l screen m) :
    Hits l screen (onlyIf condition m) := by
  cases condition with
  | true => exact hm
  | false => exact pure _

theorem record (e : Event) : Hits l screen (record e) := .modify fun _ hb => hb.noted e

theorem setback (s : Setback) : Hits l screen (setback s) :=
  turn_bind fun _ => record _

/-- Neither what the pilot knows of the battle nor the number of commands matters. -/
theorem modify {f : Battle → Battle}
    (hf : ∀ b, (f b).screen = b.screen ∧ (f b).journal = b.journal ∧ (f b).anchor = b.anchor) :
    Hits l screen (modify f : Play Unit) := by
  apply Triple.modify
  intro b hb
  obtain ⟨hscreen, hjournal, hanchor⟩ := hf b
  exact {
    positions := hscreen ▸ hb.positions
    found := hjournal ▸ hb.found
    received := hscreen ▸ hb.received
    anchor := hanchor.trans hb.anchor }

theorem modifyState (f : BattleState → BattleState) : Hits l screen (modifyState f) :=
  modify fun _ => ⟨rfl, rfl, rfl⟩

end Hits
end Play
end BattlePilot
