import BattlePilot.Proofs.Script.Canonical
import BattlePilot.Proofs.Script.Lines

/-! A command is read back from its own text exactly if it is well-formed. -/

namespace BattlePilot

def SkillOp.waits : SkillOp → List Span
  | wait d => [d]
  | _ => []

def FollowUp.waits : FollowUp → List Span
  | wait d => [d]
  | attack => []

/-- The spans that a command waits for, wherever it does. -/
def Command.waits : Command → List Span
  | character _ ops => ops.flatMap SkillOp.waits
  | summon _ after | quickSummon after => after.flatMap FollowUp.waits
  | wait d => [d]
  | _ => []

theorem SkillOp.wellFormed_iff {op : SkillOp} :
    op.WellFormed ↔ op.InRange ∧ ∀ d ∈ op.waits, d.ReadsBack := by
  cases op <;> simp [WellFormed, InRange, waits]

theorem FollowUp.wellFormed_iff {op : FollowUp} :
    op.WellFormed ↔ ∀ d ∈ op.waits, d.ReadsBack := by
  cases op <;> simp [WellFormed, waits]

/-- Only waits keep a command that is in range from being well-formed. -/
theorem Command.wellFormed_iff {command : Command} :
    command.WellFormed ↔ command.InRange ∧ ∀ d ∈ command.waits, d.ReadsBack := by
  cases command with
  | character slot ops =>
    simp only [WellFormed, InRange, waits, SkillOp.wellFormed_iff, List.forall_mem_flatMap,
      and_assoc, forall_and]
  | summon slot after =>
    simp only [WellFormed, InRange, waits, FollowUp.wellFormed_iff, List.forall_mem_flatMap]
  | quickSummon after =>
    simp only [WellFormed, InRange, waits, FollowUp.wellFormed_iff, List.forall_mem_flatMap,
      true_and]
  | item i target => cases target <;> simp [WellFormed, InRange, waits]
  | _ => simp [WellFormed, InRange, waits]

namespace Script

theorem ok_none_ne_some {text : List Char} {reason : Warning.Reason} {x : α} :
    (.ok (.none text reason) : Except ScriptError (Reading α)) ≠ .ok (.some x) := by
  simp [Reading.none, Reading.some]

section
variable (text : List Char)

theorem chain_own_character {slot : UInt8} {ops : List SkillOp} :
    chain text ("character".toList ++ Numeral.digits slot.toNat) (ops.map SkillOp.chars) =
      .ok (.some (.character slot ops)) ↔ (Command.character slot ops).WellFormed := by
  by_cases h : Slot.Among Slot.characters slot
  · rw [chain_character (slot?_digits_iff.2 h),
      map_map_eq_some_iff fun _ _ heq => (Command.character.inj heq).2,
      readLinks_chars_iff skillOp.readsLinks]
    exact (and_iff_right h).symm
  · rw [chain_character_none (slot?_digits_eq_none h)]
    exact iff_of_false ok_none_ne_some fun hwell => h hwell.1

theorem chain_own_summon {slot : UInt8} {after : List FollowUp} :
    chain text (callText "summon" (Numeral.digits slot.toNat)) (after.map FollowUp.chars) =
      .ok (.some (.summon slot after)) ↔ (Command.summon slot after).WellFormed := by
  by_cases h : Slot.Among Slot.summons slot
  · rw [chain_summon (slot?_digits_iff.2 h),
      map_map_eq_some_iff fun _ _ heq => (Command.summon.inj heq).2,
      readLinks_chars_iff followUp.readsLinks]
    exact (and_iff_right h).symm
  · rw [chain_summon_none (slot?_digits_eq_none h)]
    exact iff_of_false ok_none_ne_some fun hwell => h hwell.1

theorem chain_own_quickSummon {after : List FollowUp} :
    chain text "quicksummon".toList (after.map FollowUp.chars) = .ok (.some (.quickSummon after)) ↔
      (Command.quickSummon after).WellFormed := by
  rw [chain_quickSummon, map_map_eq_some_iff fun _ _ => Command.quickSummon.inj,
    readLinks_chars_iff followUp.readsLinks]
  rfl

theorem chain_own_item {i : Item} :
    chain text i.keyword.toList [] = .ok (.some (.item i none)) ↔
      (Command.item i none).WellFormed := by
  rw [chain_item]
  cases i <;> simp [itemUse, Item.needsTarget, Command.WellFormed, Reading.some, Reading.none]

theorem chain_own_itemOn {i : Item} {slot : UInt8} :
    chain text i.keyword.toList [callText "target" (Numeral.digits slot.toNat)] =
      .ok (.some (.item i slot)) ↔ (Command.item i slot).WellFormed := by
  rw [chain_item, itemUse, List.head?_cons, Option.bind_some, argument?_callText, Option.bind_some]
  by_cases hneeds : i.needsTarget = true
  · rw [if_pos hneeds]
    by_cases h : Slot.Among Slot.characters slot
    · rw [slot?_digits_iff.2 h]
      exact iff_of_true rfl ⟨hneeds, h⟩
    · rw [slot?_digits_eq_none h]
      exact iff_of_false ok_none_ne_some fun hwell => h hwell.2
  · rw [if_neg hneeds]
    exact iff_of_false (by simp [Reading.some]) fun hwell => hneeds hwell.1

theorem chain_own_targetEnemy {n : UInt8} :
    chain text (callText "targetenemy" (Numeral.digits n.toNat)) [] = .ok (.some (.targetEnemy n)) ↔
      (Command.targetEnemy n).WellFormed := by
  rw [chain_targetEnemy]
  exact slot_map_eq_some_iff fun _ _ => Command.targetEnemy.inj

theorem chain_own_wait {d : Span} :
    chain text (callText "wait" d.text) [] = .ok (.some (.wait d)) ↔
      (Command.wait d).WellFormed := by
  rw [chain_wait]
  exact waitSpan_map_eq_some_iff fun _ _ => Command.wait.inj

end

/-! ### Lines -/

section
variable (number : Nat)

/-- A line whose text is that of a chain is read like the chain. -/
theorem normalLine_own_of_chain {command : Command} {head : List Char} {links : List (List Char)}
    (hown : chain command.chars head links = .ok (.some command) ↔ command.WellFormed)
    (hchars : command.chars = head ++ Command.links links)
    (hturn : after? "turn" command.chars = none) (hword : word? command.chars = none)
    (hhead : IsLink head) (hlinks : ∀ link ∈ links, IsLink link) :
    normalLine number command.chars = .ok (.some command) ↔ command.WellFormed := by
  have hsplit : splitChain command.chars = head :: links := hchars ▸ splitChain_links hhead hlinks
  rw [normalLine, hturn, hword, hsplit, hown]

theorem normalLine_own_turn {n : UInt32} :
    normalLine number (normalForm (Command.turn n).chars) = .ok (.some (.turn n)) ↔
      (Command.turn n).WellFormed := by
  have htake : (Numeral.digits n.toNat ++ [':']).takeWhile (· != ':') = Numeral.digits n.toNat := by
    rw [List.takeWhile_append_of_pos]
    · exact List.append_nil _
    · intro c hc
      exact bne_iff_ne.2 (Numeral.ne_of_isDigit (Numeral.isDigit_of_mem_digits hc) rfl)
  have hnumber : turnNumber? (Numeral.digits n.toNat ++ [':']) = some n ↔ 0 < n.toNat := by
    rw [turnNumber?_eq_some_iff, htake, and_iff_right (Numeral.spells_digits _)]
  change _ ↔ 0 < n.toNat
  rw [normalForm_turn, normalLine, after?_eq_some_iff.2 rfl, ← hnumber]
  dsimp only
  cases turnNumber? (Numeral.digits n.toNat ++ [':']) <;> simp [Reading.some]

/-- A command is read back from its own text exactly if it is well-formed. -/
theorem normalLine_own {command : Command} :
    normalLine number (normalForm command.chars) = .ok (.some command) ↔ command.WellFormed := by
  by_cases hmarker : command.isMarker = true
  · cases command with
    | turn n => exact normalLine_own_turn number
    | _ => cases hmarker
  rw [normalForm_chars (Bool.eq_false_iff.2 hmarker)]
  cases command with
  | turn n => exact absurd rfl hmarker
  | character slot ops =>
    exact normalLine_own_of_chain number (chain_own_character _) rfl rfl rfl (isLink_character slot)
      (List.forall_mem_map.2 fun op _ => isLink_skillOp op)
  | summon slot after =>
    exact normalLine_own_of_chain number (chain_own_summon _) rfl rfl rfl
      (isLink_callText_digits (by decide) _) (List.forall_mem_map.2 fun op _ => isLink_followUp op)
  | quickSummon after =>
    have hhead : IsLink "quicksummon".toList := isLink_of_bare (by decide) (by decide)
    exact normalLine_own_of_chain number (chain_own_quickSummon _) rfl rfl rfl hhead
      (List.forall_mem_map.2 fun op _ => isLink_followUp op)
  | item i target =>
    cases target with
    | none =>
      exact normalLine_own_of_chain number (chain_own_item _) (List.append_nil _).symm
        (by cases i <;> rfl) (by cases i <;> rfl) (isLink_keyword i) nofun
    | some slot =>
      have hbare : "target".toList.all isBare = true := by decide
      have htarget := isLink_callText_digits hbare slot.toNat
      exact normalLine_own_of_chain number (chain_own_itemOn _) rfl (by cases i <;> rfl)
        (by cases i <;> rfl) (isLink_keyword i) (List.forall_mem_singleton.2 htarget)
  | targetEnemy n =>
    exact normalLine_own_of_chain number (chain_own_targetEnemy _) (List.append_nil _).symm rfl rfl
      (isLink_callText_digits (by decide) _) nofun
  | wait d =>
    exact normalLine_own_of_chain number (chain_own_wait _) (List.append_nil _).symm rfl rfl
      (isLink_callText_text (by decide) d) nofun
  | enableAuto kind => cases kind <;> exact iff_of_true rfl trivial
  | requestBackup viaSocial => cases viaSocial <;> exact iff_of_true rfl trivial
  | byHand action => cases action <;> exact iff_of_true rfl trivial
  | endTurn | repeatAttack | exit => exact iff_of_true rfl trivial

theorem line_own {command : Command} :
    line number command.text = .ok ⟨[command], []⟩ ↔ command.WellFormed := by
  rw [line_eq, Command.text, String.toList_ofList, ← normalLine_own number]
  rcases normalLine number (normalForm command.chars) with e | ⟨value, remarks⟩
  · simp [Except.map]
  · cases value <;> simp [Except.map, Reading.script, Reading.some]

end

/-- A text is read to its command and nothing else exactly if the command is well-formed. -/
theorem parse_own {command : Command} :
    parse [command.text] = .ok ⟨[command], []⟩ ↔ command.WellFormed := by
  rw [parse_singleton, line_own]

theorem parseFrom_own {commands : List Command} (h : ∀ c ∈ commands, c.WellFormed) (number : Nat) :
    parseFrom number (commands.map Command.text) = .ok ⟨commands, []⟩ := by
  induction commands generalizing number with
  | nil => rfl
  | cons c commands ih =>
    obtain ⟨hc, hcommands⟩ := List.forall_mem_cons.1 h
    rw [List.map_cons, parseFrom_cons, (line_own number).2 hc, ih hcommands]
    rfl

end Script
end BattlePilot
