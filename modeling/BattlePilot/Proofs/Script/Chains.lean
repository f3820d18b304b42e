import BattlePilot.Proofs.Script.Links
import BattlePilot.Proofs.Script.Splitting

/-! What a chain is read as. Without a remark, the links in canonical spelling are the text of the
command; the reading ends at a wait that is too long, if the chain is one that reads its waits. -/

namespace BattlePilot

/-- Whether the numbers of a command are those of turns and slots, and items have a target exactly
when they need one; waits may be of any length. -/
def Command.InRange : Command → Prop
  | turn n => 0 < n.toNat
  | character slot ops => Slot.Among Slot.characters slot ∧ ∀ op ∈ ops, op.InRange
  | summon slot _ => Slot.Among Slot.summons slot
  | item i none => i.needsTarget = false
  | item i (some slot) => i.needsTarget = true ∧ Slot.Among Slot.characters slot
  | targetEnemy n => Slot.Among Slot.enemies n
  | _ => True

theorem Item.eq_of_ofKeyword? {cs : List Char} {item : Item}
    (h : ofKeyword? (String.ofList cs) = some item) : cs = item.keyword.toList := by
  unfold ofKeyword? at h
  have hkeyword : item.keyword = String.ofList cs := by simpa using List.find?_some h
  rw [hkeyword, String.toList_ofList]

theorem Item.all_isLetter (item : Item) : item.keyword.toList.all Script.isLetter = true := by
  cases item <;> decide

/-- What is not spelled with letters alone is no item. -/
theorem Item.ofKeyword?_eq_none {cs : List Char} {c : Char} (hmem : c ∈ cs)
    (hc : Script.isLetter c = false) : ofKeyword? (String.ofList cs) = none := by
  rw [Option.eq_none_iff_forall_ne_some]
  intro item h
  rw [eq_of_ofKeyword? h] at hmem
  rw [List.all_eq_true.1 item.all_isLetter c hmem] at hc
  cases hc

theorem Item.ofKeyword?_callText (name : String) (argument : List Char) :
    ofKeyword? (String.ofList (callText name argument)) = none := by
  have hparen : '(' ∈ callText name argument := by simp [callText]
  exact ofKeyword?_eq_none hparen rfl

namespace Script

/-! ### Chains by their first link -/

theorem bind_all (rs : Except ScriptError (List (Reading α))) (f : List α → Command) :
    (rs >>= fun rs => pure ((Reading.all rs).map f)) = (rs.map Reading.all).map (·.map f) := by
  cases rs <;> rfl

section
variable {text argument : List Char} {links : List (List Char)} {n : UInt8}

theorem chain_character (h : slot? Slot.characters argument = some n) :
    chain text ("character".toList ++ argument) links =
      (readLinks skillOp links).map (·.map (.character n)) := by
  rw [chain, after?_eq_some_iff.2 rfl]
  simp only [h, bind_all, readLinks]

theorem chain_character_none (h : slot? Slot.characters argument = none) :
    chain text ("character".toList ++ argument) links = .ok (.none text .characterSlot) := by
  rw [chain, after?_eq_some_iff.2 rfl]
  simp only [h]

theorem chain_summon (h : slot? Slot.summons argument = some n) :
    chain text (callText "summon" argument) links =
      (readLinks followUp links).map (·.map (.summon n)) := by
  have hcharacter : after? "character" (callText "summon" argument) = none := rfl
  rw [chain, hcharacter, argument?_callText]
  simp only [h, bind_all, readLinks]

theorem chain_summon_none (h : slot? Slot.summons argument = none) :
    chain text (callText "summon" argument) links = .ok (.none text .summonSlot) := by
  have hcharacter : after? "character" (callText "summon" argument) = none := rfl
  rw [chain, hcharacter, argument?_callText]
  simp only [h]

theorem chain_quickSummon : chain text "quicksummon".toList links =
    (readLinks followUp links).map (·.map .quickSummon) :=
  bind_all _ _

theorem chain_item (item : Item) :
    chain text item.keyword.toList links = .ok (itemUse text item links) := by
  cases item <;> rfl

/-- What a chain with the target of an enemy is read as. -/
def enemyTarget (text argument : List Char) (links : List (List Char)) : Reading Command :=
  let enemy := slot Slot.enemies text .enemySlot argument
  ⟨enemy.value.map .targetEnemy,
    (if links = [] then [] else [⟨text, .enemyAlone⟩]) ++ enemy.remarks⟩

theorem chain_targetEnemy : chain text (callText "targetenemy" argument) links =
    .ok (enemyTarget text argument links) := by
  have hcharacter : after? "character" (callText "targetenemy" argument) = none := rfl
  have hsummon : argument? "summon" (callText "targetenemy" argument) = none := rfl
  rw [chain, hcharacter, hsummon, if_neg nofun, Item.ofKeyword?_callText, argument?_callText]
  rfl

theorem chain_wait : chain text (callText "wait" argument) [] =
    (waitSpan (callText "wait" argument) argument).map (·.map .wait) := by
  have hcharacter : after? "character" (callText "wait" argument) = none := rfl
  have hsummon : argument? "summon" (callText "wait" argument) = none := rfl
  have henemy : argument? "targetenemy" (callText "wait" argument) = none := rfl
  rw [chain, hcharacter, hsummon, if_neg nofun, Item.ofKeyword?_callText, henemy,
    argument?_callText]

end

/-! ### Outcomes -/

/-- Whether `argument` is that of a wait that is read as part of the chain. -/
inductive ReadsWait : (head : List Char) → (links : List (List Char)) → List Char → Prop where
  | alone : ReadsWait (callText "wait" argument) [] argument
  | character : slot? Slot.characters number = some n → callText "wait" argument ∈ links →
      ReadsWait ("character".toList ++ number) links argument
  | summon : slot? Slot.summons number = some n → callText "wait" argument ∈ links →
      ReadsWait (callText "summon" number) links argument
  | quickSummon : callText "wait" argument ∈ links →
      ReadsWait "quicksummon".toList links argument

/-- What a chain may be read as. -/
inductive ChainReading (text head : List Char) (links : List (List Char)) :
    Except ScriptError (Reading Command) → Prop where
  | spelled : c.isMarker = false → c.InRange →
      c.chars = respellLink head ++ Command.links (links.map respellLink) →
      ChainReading text head links (.ok (.some c))
  | remarked : remarks ≠ [] → (∀ c ∈ value, c.InRange) →
      (∀ remark ∈ remarks, remark.text = text ∨ remark.text ∈ head :: links) →
      ChainReading text head links (.ok ⟨value, remarks⟩)
  | tooLong : ReadsWait head links argument → Span.TooLong argument →
      ChainReading text head links (.error .waitTooLong)

theorem ChainReading.ofLinks {read : List Char → Except ScriptError (Reading α)}
    {chars : α → List Char} {InRange WellFormed : α → Prop} {f : List α → Command}
    (hread : ReadsLinks read chars InRange WellFormed)
    (hmarker : ∀ xs, (f xs).isMarker = false)
    (hrange : ∀ xs, (∀ x ∈ xs, InRange x) → (f xs).InRange)
    (hchars : ∀ xs, (f xs).chars = respellLink head ++ Command.links (xs.map chars))
    (hwait : ∀ argument, callText "wait" argument ∈ links → ReadsWait head links argument) :
    ChainReading text head links ((readLinks read links).map (·.map f)) := by
  obtain ⟨xs, remarks, h, hxs, hremarks, hclean⟩ | ⟨argument, hmem, htoo, h⟩ :=
    readLinks_cases hread links <;> rw [h]
  · by_cases hnil : remarks = []
    · subst hnil
      exact .spelled (hmarker xs) (hrange xs hxs) (hclean rfl ▸ hchars xs)
    · refine .remarked hnil ?_ fun remark hmem => ?_
      · rintro c ⟨⟩
        exact hrange xs hxs
      · exact .inr (List.mem_cons_of_mem _ (hremarks remark hmem))
  · exact .tooLong (hwait argument hmem) htoo

/-- A command that takes `links` along without reading them. -/
theorem ChainReading.passing {c : Command} {passed : List (List Char)} (reason : Warning.Reason)
    (hmarker : c.isMarker = false) (hrange : c.InRange) (hpassed : passed ⊆ head :: links)
    (hchars : passed = [] → c.chars = respellLink head ++ Command.links (links.map respellLink)) :
    ChainReading text head links (.ok ⟨some c, passed.map (⟨·, reason⟩)⟩) := by
  cases passed with
  | nil => exact .spelled hmarker hrange (hchars rfl)
  | cons link more =>
    refine .remarked nofun (by rintro d ⟨⟩; exact hrange) fun remark hmem => ?_
    obtain ⟨link, hlink, rfl⟩ := List.mem_map.1 hmem
    exact .inr (hpassed hlink)

theorem itemUse_reading (text : List Char) (item : Item) (links : List (List Char)) :
    ChainReading text item.keyword.toList links (.ok (itemUse text item links)) := by
  have hhead := respellLink_word item.all_isLetter
  unfold itemUse
  split
  · next hneeds =>
    split
    · next n hn =>
      obtain ⟨argument, hargument, hslot⟩ := Option.bind_eq_some_iff.1 hn
      obtain ⟨link, hlink, hcall⟩ := Option.bind_eq_some_iff.1 hargument
      obtain ⟨more, rfl⟩ := List.head?_eq_some_iff.1 hlink
      have hamong := (slot?_eq_some_iff.1 hslot).2
      refine .passing _ rfl ⟨hneeds, hamong⟩ (fun l hl => ?_) fun hnil => ?_
      · exact List.mem_cons_of_mem _ (List.mem_cons_of_mem _ hl)
      · rw [List.tail_cons] at hnil
        rw [hhead, hnil, List.map_singleton, argument?_eq_some_iff.1 hcall,
          respellLink_callText (by decide), respell_of_slot? hslot]
        rfl
    · exact .remarked nofun nofun (by simp)
  · next hneeds =>
    refine .passing _ rfl (Bool.eq_false_iff.2 hneeds) (List.subset_cons_self ..) fun hnil => ?_
    rw [hhead, hnil]
    exact (List.append_nil _).symm

theorem enemyTarget_reading (text argument : List Char) (links : List (List Char)) :
    ChainReading text (callText "targetenemy" argument) links
      (.ok (enemyTarget text argument links)) := by
  rcases slot_cases Slot.enemies text .enemySlot argument with ⟨n, hn, h⟩ | h
  · have hamong := (slot?_eq_some_iff.1 hn).2
    by_cases hnil : links = []
    · rw [enemyTarget, h, if_pos hnil, hnil]
      refine .spelled rfl hamong ?_
      rw [respellLink_callText (by decide), respell_of_slot? hn]
      exact (List.append_nil _).symm
    · rw [enemyTarget, h, if_neg hnil]
      exact .remarked nofun (by rintro c ⟨⟩; exact hamong) (by simp [Reading.some])
  · rw [enemyTarget, h]
    refine .remarked (by simp [Reading.none]) (by rintro c ⟨⟩) ?_
    split <;> simp [Reading.none]

theorem wait_reading (text argument : List Char) :
    ChainReading text (callText "wait" argument) []
      ((waitSpan (callText "wait" argument) argument).map (·.map .wait)) := by
  rcases waitSpan_cases (callText "wait" argument) argument with
    ⟨d, hd, h⟩ | ⟨-, -, h⟩ | ⟨htoo, h⟩ <;> rw [h]
  · refine .spelled rfl trivial ?_
    rw [respellLink_callText (by decide), Span.respell_of_ofLiteral? hd]
    exact (List.append_nil _).symm
  · exact .remarked nofun (by rintro c ⟨⟩; trivial) (by simp)
  · exact .tooLong .alone htoo

theorem character_reading {text number : List Char} {links : List (List Char)} {n : UInt8}
    (h : slot? Slot.characters number = some n) :
    ChainReading text ("character".toList ++ number) links
      ((readLinks skillOp links).map (·.map (.character n))) := by
  obtain ⟨hspells, hamong⟩ := slot?_eq_some_iff.1 h
  refine .ofLinks skillOp.readsLinks (fun _ => rfl) (fun _ => And.intro hamong) (fun ops => ?_)
    fun _ => .character h
  rw [respellLink_numeral (by decide) hspells, respell_of_slot? h]
  rfl

theorem summon_reading {text number : List Char} {links : List (List Char)} {n : UInt8}
    (h : slot? Slot.summons number = some n) :
    ChainReading text (callText "summon" number) links
      ((readLinks followUp links).map (·.map (.summon n))) := by
  have hamong := (slot?_eq_some_iff.1 h).2
  refine .ofLinks followUp.readsLinks (fun _ => rfl) (fun _ _ => hamong) (fun ops => ?_)
    fun _ => .summon h
  rw [respellLink_callText (by decide), respell_of_slot? h]
  rfl

theorem quickSummon_reading {text : List Char} {links : List (List Char)} :
    ChainReading text "quicksummon".toList links
      ((readLinks followUp links).map (·.map .quickSummon)) := by
  refine .ofLinks followUp.readsLinks (fun _ => rfl) (fun _ _ => trivial) (fun ops => ?_)
    fun _ => .quickSummon
  rw [respellLink_word (by decide)]
  rfl

theorem chain_reading (text head : List Char) (links : List (List Char)) :
    ChainReading text head links (chain text head links) := by
  unfold chain
  split
  · next number h =>
    rw [after?_eq_some_iff.1 h]
    split
    · next n hn => exact bind_all _ _ ▸ character_reading hn
    · exact .remarked nofun nofun (by simp)
  split
  · next number h =>
    rw [argument?_eq_some_iff.1 h]
    split
    · next n hn => exact bind_all _ _ ▸ summon_reading hn
    · exact .remarked nofun nofun (by simp)
  split
  · next h => exact h ▸ bind_all _ _ ▸ quickSummon_reading
  split
  · next item h => exact Item.eq_of_ofKeyword? h ▸ itemUse_reading text item links
  split
  · next argument h => exact argument?_eq_some_iff.1 h ▸ enemyTarget_reading text argument links
  split
  · next argument h =>
    obtain ⟨hargument, rfl⟩ := Prod.mk.inj h
    exact argument?_eq_some_iff.1 hargument ▸ wait_reading text argument
  · exact .remarked nofun nofun (by simp)

/-- The reading ends at every wait that is read. -/
theorem chain_of_tooLong {text head argument : List Char} {links : List (List Char)}
    (h : ReadsWait head links argument) (htoo : Span.TooLong argument) :
    chain text head links = .error .waitTooLong := by
  cases h with
  | alone => rw [chain_wait, waitSpan_of_tooLong htoo]; rfl
  | character hslot hmem =>
    rw [chain_character hslot, readLinks_of_tooLong skillOp.readsLinks hmem htoo]
    rfl
  | summon hslot hmem =>
    rw [chain_summon hslot, readLinks_of_tooLong followUp.readsLinks hmem htoo]
    rfl
  | quickSummon hmem =>
    rw [chain_quickSummon, readLinks_of_tooLong followUp.readsLinks hmem htoo]
    rfl

end Script
end BattlePilot
