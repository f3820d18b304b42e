import BattlePilot.Proofs.Play.Hits
import BattlePilot.Proofs.Play.KeepingCourses
import BattlePilot.Proofs.Play.Rounds

/-! Every course of play hits the slots that it clicks: the anchor that they lie around is only ever
moved to where the attack button was found, and that is where it always was. -/

namespace BattlePilot.Play
open Battle

variable {l : Layout} {screen : Screen} (cfg : Settings)

theorem turnNames_noSlot : ∀ name ∈ turnNames, namesSlot name = false := by decide

/-! ### Input and search -/

theorem send.hits {i : Input} (h : ∀ label, i.label? = some label → namesSlot label = false) :
    Hits l screen (send i) := by
  apply Hits.asks (send.asks _)
  intro j hj
  cases hj
  exact Input.onSlot_of_label h

theorem click.hits {label : String} (h : namesSlot label = false) (position : Point) :
    Hits l screen (send (.click label position)) := by
  apply send.hits
  intro label' hlabel
  cases hlabel
  exact h

theorem scroll.hits (position : Point) (amount : Int) : Hits l screen (scroll position amount) :=
  send.hits nofun

theorem home.hits : Hits l screen (send .home) := send.hits nofun

theorem wait.hits (d : Span) : Hits l screen (wait d) := .asks (wait.asks nofun)

theorem look.hits (name : String) : Hits l screen (look name) := .asks (look.asks nofun)

theorem waitVanish.hits (name : String) (timeout : Span) :
    Hits l screen (waitVanish name timeout) :=
  .asks (waitVanish.asks nofun)

theorem find.hits (name : String) (tries : Nat) : Hits l screen (find cfg name tries) :=
  .asks (find.asks cfg nofun (fun _ => nofun) _)

theorem confirm.hits (name : String) (tries : Nat) : Hits l screen (confirm cfg name tries) :=
  .asks (confirm.asks cfg nofun (fun _ => nofun) _)

theorem findAndClick.asksOnSlot {name : String} (h : namesSlot name = false) (tries : Nat) :
    Within (Ask (ScreenOp.OnSlot l screen)) (findAndClick cfg name tries) :=
  (findAndClick.asks cfg tries).mono fun _ _ ha => ha.mono fun _ => ScreenOp.Presses.onSlot h

theorem findAndClick.hits {name : String} (h : namesSlot name = false) (tries : Nat) :
    Hits l screen (findAndClick cfg name tries) :=
  .asks (findAndClick.asksOnSlot cfg h tries)

theorem press.hits {name : String} (h : namesSlot name = false) :
    Hits l screen (press cfg name) :=
  .discard (findAndClick.hits cfg h _)

/-- An element is found where it was when the battle began. -/
theorem find.charts (name : String) (tries : Nat) :
    Triple (Charted l screen) (find cfg name tries)
      (fun found b => (∀ p, found = some p → p = screen.position name) ∧ b.Charted l screen)
      fun _ => Charted l screen := by
  have asks : Within (Ask (ScreenOp.OnSlot l screen)) (find cfg name tries) :=
    find.asks cfg nofun (fun _ => nofun) _
  apply (asks.charted.and (find.found cfg name tries)).mono_value
  rintro found b ⟨hb, hfound⟩
  refine ⟨fun p hp => ?_, hb⟩
  obtain ⟨clock, hclock⟩ := hfound p hp
  exact hb.found clock name p (List.mem_of_mem_head? hclock)

theorem find.locates (name : String) (tries : Nat) :
    Triple (Anchored l screen) (find cfg name tries)
      (fun found b => (∀ p, found = some p → p = screen.position name) ∧ b.Anchored l screen)
      fun _ => Anchored l screen := by
  apply ((find.hits cfg name tries).both (find.charts cfg name tries)).conseq
  · exact fun _ hb => ⟨hb, hb.toCharted⟩
  · exact fun _ _ h => ⟨h.2.1, h.1⟩
  · exact fun _ _ h => h.1

/-! ### Slots -/

theorem beside.spot (position : Point) (offset : Offset) (P : Battle → Prop) :
    Triple P (beside position offset) (fun p b => position.offset? offset = some p ∧ P b)
      fun _ => P := by
  unfold beside
  split
  · next h => exact .pure fun _ hb => ⟨h, hb⟩
  · exact .halt fun _ hb => hb

theorem beside.hits (position : Point) (offset : Offset) :
    Hits l screen (beside position offset) :=
  (beside.spot position offset _).mono_value fun _ _ h => h.2

/-- A click beside the element around which the slots of its kind lie hits its slot. -/
theorem sendBeside.hits (kind : SlotKind) {slot : UInt8} {offset : Offset} {position : Point}
    {strike : Point → Input} (hoffset : l.offset? kind slot = some offset)
    (hposition : position = screen.position kind.origin)
    (hstrike : ∀ p, (strike p).click? = some (slotLabel kind.label slot, p)) :
    Hits l screen (do send (strike (← beside position offset))) := by
  apply Triple.bind (beside.spot position offset _)
  intro p
  apply Triple.of_fact
  intro hp
  apply Hits.asks (send.asks _)
  intro i hi
  cases hi
  exact Input.onSlot_of_offset hoffset (hposition ▸ hp) (hstrike p)

/-- The anchor is where the attack button is. -/
theorem sendAround.hits (kind : SlotKind) {slot : UInt8} {offset : Offset}
    {strike : Point → Input} (horigin : kind.origin = "attack")
    (hoffset : l.offset? kind slot = some offset)
    (hstrike : ∀ p, (strike p).click? = some (slotLabel kind.label slot, p)) :
    Hits l screen (do send (strike (← beside (← get).anchor offset))) := by
  apply Triple.get_bind
  intro b hb
  have hposition : b.anchor = screen.position kind.origin := horigin ▸ hb.anchor
  exact (sendBeside.hits kind hoffset hposition hstrike).mono_start fun _ h => h ▸ hb

theorem clickSlot.hits (kind : SlotKind) {slot : UInt8} {offset : Offset}
    (horigin : kind.origin = "attack") (hoffset : l.offset? kind slot = some offset) :
    Hits l screen (clickSlot kind.label slot offset) :=
  sendAround.hits kind horigin hoffset fun _ => rfl

theorem doubleClickSlot.hits (kind : SlotKind) {slot : UInt8} {offset : Offset}
    (horigin : kind.origin = "attack") (hoffset : l.offset? kind slot = some offset) :
    Hits l screen (doubleClickSlot kind.label slot offset) :=
  sendAround.hits kind horigin hoffset fun _ => rfl

theorem useSkill.hits (skill : UInt8) : Hits cfg.layout screen (useSkill cfg skill) := by
  unfold useSkill
  split
  · next offset hoffset => exact clickSlot.hits .skill rfl hoffset
  · exact .pure _

theorem selectAlly.hits (ally : UInt8) : Hits cfg.layout screen (selectAlly cfg ally) := by
  unfold selectAlly
  split
  · exact .pure _
  · next offset hoffset =>
    apply Triple.bind (find.locates cfg _ _)
    intro found
    apply Triple.of_fact
    intro hfound
    cases found with
    | some prompt =>
      exact sendBeside.hits .ally hoffset (hfound prompt rfl) fun _ => rfl
    | none => exact Hits.pure _

/-! ### Turns -/

theorem check.hits : Hits l screen (check cfg) :=
  check.keeps cfg Anchored.timeless.toSteady (endNames_of_turnNames turnNames_noSlot)

theorem wipeCheck.hits : Hits l screen (wipeCheck cfg) :=
  wipeCheck.keeps cfg Anchored.timeless.toSteady (wipeNames_of_turnNames turnNames_noSlot)

theorem settleAttack.hits : Hits l screen (settleAttack cfg) :=
  settleAttack.keeps cfg Anchored.timeless.toSteady (recoveryNames_of_turnNames turnNames_noSlot)

theorem enableAuto.hits (kind : AutoKind) : Hits l screen (enableAuto cfg kind) :=
  enableAuto.keeps cfg Anchored.timeless.toSteady (autoNames_of_turnNames turnNames_noSlot) kind

theorem waitForAttack.hits (tries : Nat) : Hits l screen (waitForAttack cfg tries) :=
  waitForAttack.keeps cfg Anchored.timeless.toSteady turnNames_noSlot tries

theorem finishTurn.hits : Hits l screen finishTurn := finishTurn.keeps Anchored.timeless

theorem endTurn.hits : Hits l screen (endTurn cfg) :=
  endTurn.keeps cfg Anchored.timeless turnNames_noSlot

end BattlePilot.Play
