import BattlePilot.Proofs.Script.Spelling
import BattlePilot.Script.WellFormed
import Mathlib.Data.List.Basic

/-! What a link of a chain is read as. A link without a remark is respelled as the text of what it
is read as; a link with one is passed over or amended; a wait that is too long ends the reading. -/

namespace BattlePilot.Script

theorem after?_eq_some_iff {word : String} {cs rest : List Char} :
    after? word cs = some rest ↔ cs = word.toList ++ rest := by
  simp only [after?, Option.ite_none_right_eq_some, Option.some.injEq, List.isPrefixOf_iff_prefix,
    ← String.length_toList]
  constructor
  · rintro ⟨⟨tail, rfl⟩, rfl⟩
    rw [List.drop_left]
  · rintro rfl
    exact ⟨List.prefix_append .., List.drop_left ..⟩

theorem argument?_eq_some_iff {name : String} {link argument : List Char} :
    argument? name link = some argument ↔ link = callText name argument := by
  have hcall : callText name argument = name.toList ++ '(' :: (argument ++ [')']) :=
    List.append_assoc ..
  rw [argument?, Option.bind_eq_bind, Option.bind_eq_some_iff, hcall]
  constructor
  · rintro ⟨rest, hrest, h⟩
    rw [after?_eq_some_iff.1 hrest]
    split at h
    · next body =>
      simp only [Option.ite_none_right_eq_some, Option.some.injEq] at h
      rw [← h.2, List.dropLast_append_getLast? _ h.1]
    · cases h
  · rintro rfl
    refine ⟨_, after?_eq_some_iff.2 rfl, ?_⟩
    simp

theorem argument?_callText (name : String) (argument : List Char) :
    argument? name (callText name argument) = some argument :=
  argument?_eq_some_iff.2 rfl

theorem slot?_eq_some_iff {limit : Nat} {cs : List Char} {n : UInt8} :
    slot? limit cs = some n ↔ Numeral.Spells cs n.toNat ∧ Slot.Among limit n := by
  rw [slot?, Option.bind_eq_bind, Option.bind_eq_some_iff]
  simp only [Option.ite_none_right_eq_some, Option.some.injEq, Numeral.read?_eq_some_iff]
  constructor
  · rintro ⟨m, ⟨hspells, hlt⟩, hamong, rfl⟩
    have htoNat : (UInt8.ofNat m).toNat = m := Nat.mod_eq_of_lt hlt
    exact ⟨htoNat.symm ▸ hspells, by rwa [Slot.Among, htoNat]⟩
  · rintro ⟨hspells, hamong⟩
    exact ⟨n.toNat, ⟨hspells, n.toNat_lt⟩, hamong, UInt8.ofNat_toNat⟩

theorem respell_of_slot? {limit : Nat} {cs : List Char} {n : UInt8} (h : slot? limit cs = some n) :
    Span.respell cs = Numeral.digits n.toNat :=
  Span.respell_of_spells (slot?_eq_some_iff.1 h).1 (Nat.lt_trans n.toNat_lt (by decide))

theorem slot?_digits_iff {limit : Nat} {n : UInt8} :
    slot? limit (Numeral.digits n.toNat) = some n ↔ Slot.Among limit n := by
  rw [slot?_eq_some_iff, and_iff_right (Numeral.spells_digits _)]

theorem slot?_digits_eq_none {limit : Nat} {n : UInt8} (h : ¬ Slot.Among limit n) :
    slot? limit (Numeral.digits n.toNat) = none := by
  rw [Option.eq_none_iff_forall_ne_some]
  intro m hm
  obtain ⟨hspells, hamong⟩ := slot?_eq_some_iff.1 hm
  rw [Slot.Among, ← hspells.unique (Numeral.spells_digits _)] at h
  exact h hamong

theorem slot_eq_some_iff {limit : Nat} {text argument : List Char} {reason : Warning.Reason}
    {n : UInt8} : slot limit text reason argument = .some n ↔ slot? limit argument = some n := by
  unfold slot
  split
  · next h => rw [h]; simp [Reading.some]
  · next h => rw [h]; simp [Reading.some, Reading.none]

theorem slot_cases (limit : Nat) (text : List Char) (reason : Warning.Reason)
    (argument : List Char) :
    (∃ n, slot? limit argument = some n ∧ slot limit text reason argument = .some n) ∨
      slot limit text reason argument = .none text reason := by
  unfold slot
  split
  · next n h => exact .inl ⟨n, h, rfl⟩
  · exact .inr rfl

/-! ### Waits -/

/-- A wait is read as its span, or is not a number of seconds from zero on and gets a remark, or is
too long. -/
theorem waitSpan_cases (text argument : List Char) :
    (∃ d, Span.ofLiteral? argument = some d ∧ waitSpan text argument = .ok (.some d)) ∨
      (Span.ofLiteral? argument = none ∧ ¬ Span.TooLong argument ∧
        waitSpan text argument = .ok ⟨defaultWait, [⟨text, .malformedWait⟩]⟩) ∨
      Span.TooLong argument ∧ waitSpan text argument = .error .waitTooLong := by
  unfold waitSpan
  split
  · next h => exact .inr (.inl ⟨by rw [Span.ofLiteral?, h]; rfl, by simp [Span.TooLong, h], rfl⟩)
  · next units h =>
    have hliteral : Span.ofLiteral? argument = Span.ofMagnitude? units := by
      rw [Span.ofLiteral?, h, Option.bind_some]
    cases hspan : Span.ofMagnitude? units with
    | some d => exact .inl ⟨d, hliteral.trans hspan, rfl⟩
    | none => exact .inr (.inr ⟨(Span.tooLong_iff h).2 hspan, rfl⟩)

theorem waitSpan_eq_some_iff {text argument : List Char} {d : Span} :
    waitSpan text argument = .ok (.some d) ↔ Span.ofLiteral? argument = some d := by
  rcases waitSpan_cases text argument with ⟨d', hd, h⟩ | ⟨hd, -, h⟩ | ⟨htoo, h⟩
  · simp [hd, h, Reading.some]
  · simp [hd, h, Reading.some]
  · simp [htoo.ofLiteral?_eq_none, h]

theorem waitSpan_of_tooLong {argument : List Char} (h : Span.TooLong argument) (text : List Char) :
    waitSpan text argument = .error .waitTooLong := by
  rcases waitSpan_cases text argument with ⟨d, hd, -⟩ | ⟨-, hshort, -⟩ | ⟨-, herror⟩
  · rw [h.ofLiteral?_eq_none] at hd
    cases hd
  · exact absurd h hshort
  · exact herror

theorem readsBack_iff {d : Span} :
    d.ReadsBack ↔ Span.ofLiteral? d.text = some d :=
  waitSpan_eq_some_iff

/-! ### Links -/

theorem Reading.map_eq_some_iff {f : α → β} (hf : Function.Injective f) {r : Reading α} {x : α} :
    r.map f = .some (f x) ↔ r = .some x := by
  obtain ⟨value, remarks⟩ := r
  simp [Reading.map, Reading.some, Option.map_eq_some_iff, hf.eq_iff]

/-- What a link may be read as: what it spells, something else or nothing with a remark, or a fault
if it is a wait that is too long. -/
inductive LinkReading (chars : α → List Char) (InRange : α → Prop) (link : List Char) :
    Except ScriptError (Reading α) → Prop where
  | spelled : InRange x → respellLink link = chars x →
      LinkReading chars InRange link (.ok (.some x))
  | remarked : (∀ x ∈ value, InRange x) →
      LinkReading chars InRange link (.ok ⟨value, [⟨link, reason⟩]⟩)
  | tooLong : link = callText "wait" argument → Span.TooLong argument →
      LinkReading chars InRange link (.error .waitTooLong)

/-- A way to read the links of a kind of chain. -/
structure ReadsLinks (read : List Char → Except ScriptError (Reading α)) (chars : α → List Char)
    (InRange WellFormed : α → Prop) : Prop where
  reading : ∀ link, LinkReading chars InRange link (read link)
  tooLong : ∀ {argument}, Span.TooLong argument →
    read (callText "wait" argument) = .error .waitTooLong
  own : ∀ {x}, read (chars x) = .ok (.some x) ↔ WellFormed x

theorem LinkReading.slot {chars : α → List Char} {InRange : α → Prop} {name : String}
    {limit : Nat} {argument : List Char} {f : UInt8 → α} (reason : Warning.Reason)
    (hname : name.toList.all isLetter = true)
    (hchars : ∀ n, chars (f n) = callText name (Numeral.digits n.toNat))
    (hrange : ∀ n, Slot.Among limit n → InRange (f n)) :
    LinkReading chars InRange (callText name argument)
      (.ok ((slot limit (callText name argument) reason argument).map f)) := by
  rcases slot_cases limit (callText name argument) reason argument with ⟨n, hn, h⟩ | h <;> rw [h]
  · refine .spelled (hrange n (slot?_eq_some_iff.1 hn).2) ?_
    rw [respellLink_callText hname, respell_of_slot? hn, hchars]
  · exact .remarked nofun

theorem LinkReading.wait {chars : α → List Char} {InRange : α → Prop} {argument : List Char}
    {f : Span → α} (hchars : ∀ d, chars (f d) = callText "wait" d.text)
    (hrange : ∀ d, InRange (f d)) :
    LinkReading chars InRange (callText "wait" argument)
      ((waitSpan (callText "wait" argument) argument).map (·.map f)) := by
  rcases waitSpan_cases (callText "wait" argument) argument with
    ⟨d, hd, h⟩ | ⟨-, -, h⟩ | ⟨htoo, h⟩ <;> rw [h]
  · refine .spelled (hrange d) ?_
    rw [respellLink_callText (by decide), Span.respell_of_ofLiteral? hd, hchars]
  · refine .remarked ?_
    rintro x ⟨⟩
    exact hrange _
  · exact .tooLong rfl htoo

end BattlePilot.Script

namespace BattlePilot

/-- Whether the numbers of a link are those of slots; a wait may be of any length. -/
def SkillOp.InRange : SkillOp → Prop
  | useSkill n => Slot.Among Slot.skills n
  | target n => Slot.Among Slot.allies n
  | _ => True

namespace Script

theorem map_map_eq_some_iff {f : α → β} (hf : Function.Injective f)
    {reading : Except ScriptError (Reading α)} {x : α} :
    reading.map (·.map f) = .ok (.some (f x)) ↔ reading = .ok (.some x) := by
  cases reading with
  | error e => simp [Except.map]
  | ok r => rw [Except.map, Except.ok.injEq, Except.ok.injEq, Reading.map_eq_some_iff hf]

theorem slot_map_eq_some_iff {f : UInt8 → α} (hf : Function.Injective f) {limit : Nat}
    {text : List Char} {reason : Warning.Reason} {n : UInt8} :
    (.ok ((slot limit text reason (Numeral.digits n.toNat)).map f) :
      Except ScriptError (Reading α)) = .ok (.some (f n)) ↔ Slot.Among limit n := by
  rw [Except.ok.injEq, Reading.map_eq_some_iff hf, slot_eq_some_iff, slot?_digits_iff]

theorem waitSpan_map_eq_some_iff {f : Span → α} (hf : Function.Injective f) {text : List Char}
    {d : Span} :
    (waitSpan text d.text).map (·.map f) = .ok (.some (f d)) ↔ d.ReadsBack := by
  rw [map_map_eq_some_iff hf, waitSpan_eq_some_iff, readsBack_iff]

/-! #### Links of characters -/

theorem skillOp_useSkill (argument : List Char) :
    skillOp (callText "useskill" argument) = .ok
      ((slot Slot.skills (callText "useskill" argument) .skillIndex argument).map .useSkill) := by
  rw [skillOp, if_neg nofun, argument?_callText]

theorem skillOp_target (argument : List Char) :
    skillOp (callText "target" argument) = .ok
      ((slot Slot.allies (callText "target" argument) .skillTarget argument).map .target) := by
  have hskill : argument? "useskill" (callText "target" argument) = none := rfl
  rw [skillOp, if_neg nofun, hskill, argument?_callText]

theorem skillOp_wait (argument : List Char) :
    skillOp (callText "wait" argument) =
      (waitSpan (callText "wait" argument) argument).map (·.map .wait) := by
  have hskill : argument? "useskill" (callText "wait" argument) = none := rfl
  have htarget : argument? "target" (callText "wait" argument) = none := rfl
  rw [skillOp, if_neg nofun, hskill, htarget, argument?_callText]

theorem skillOp.readsLinks :
    ReadsLinks skillOp SkillOp.chars SkillOp.InRange SkillOp.WellFormed where
  reading link := by
    unfold skillOp
    split
    · next h =>
      subst h
      exact .spelled trivial (respellLink_word (by decide))
    split
    · next a h =>
      rw [argument?_eq_some_iff.1 h]
      exact .slot _ (by decide) (fun _ => rfl) fun _ => id
    split
    · next a h =>
      rw [argument?_eq_some_iff.1 h]
      exact .slot _ (by decide) (fun _ => rfl) fun _ => id
    split
    · next a h =>
      rw [argument?_eq_some_iff.1 h]
      exact .wait (fun _ => rfl) fun _ => trivial
    · exact .remarked nofun
  tooLong h := by
    rw [skillOp_wait, waitSpan_of_tooLong h]
    rfl
  own {op} := by
    cases op with
    | useSkill n =>
      rw [SkillOp.chars, skillOp_useSkill]
      exact slot_map_eq_some_iff fun _ _ => SkillOp.useSkill.inj
    | target n =>
      rw [SkillOp.chars, skillOp_target]
      exact slot_map_eq_some_iff fun _ _ => SkillOp.target.inj
    | wait d =>
      rw [SkillOp.chars, skillOp_wait]
      exact waitSpan_map_eq_some_iff fun _ _ => SkillOp.wait.inj
    | attack => exact iff_of_true (if_pos rfl) trivial

/-! #### Links of summons -/

theorem followUp_wait (argument : List Char) :
    followUp (callText "wait" argument) =
      (waitSpan (callText "wait" argument) argument).map (·.map .wait) := by
  rw [followUp, if_neg nofun, argument?_callText]

theorem followUp.readsLinks :
    ReadsLinks followUp FollowUp.chars (fun _ => True) FollowUp.WellFormed where
  reading link := by
    unfold followUp
    split
    · next h =>
      subst h
      exact .spelled trivial (respellLink_word (by decide))
    split
    · next a h =>
      rw [argument?_eq_some_iff.1 h]
      exact .wait (fun _ => rfl) fun _ => trivial
    · exact .remarked nofun
  tooLong h := by
    rw [followUp_wait, waitSpan_of_tooLong h]
    rfl
  own {op} := by
    cases op with
    | wait d =>
      rw [FollowUp.chars, followUp_wait]
      exact waitSpan_map_eq_some_iff fun _ _ => FollowUp.wait.inj
    | attack => exact iff_of_true (if_pos rfl) trivial

/-! ### All links of a chain -/

/-- The readings of the links of a chain. -/
def readLinks (read : List Char → Except ScriptError (Reading α)) (links : List (List Char)) :
    Except ScriptError (Reading (List α)) :=
  (links.mapM read).map Reading.all

section
variable {read : List Char → Except ScriptError (Reading α)}

theorem readLinks_cons (link : List Char) (links : List (List Char)) :
    readLinks read (link :: links) = (read link).bind fun r => (readLinks read links).map fun rs =>
      ⟨rs.value.map (r.value.toList ++ ·), r.remarks ++ rs.remarks⟩ := by
  rw [readLinks, readLinks, List.mapM_cons]
  cases read link with
  | error e => rfl
  | ok r =>
    cases links.mapM read with
    | error e => rfl
    | ok rs =>
      obtain ⟨value, remarks⟩ := r
      cases value <;> rfl

variable {chars : α → List Char} {InRange WellFormed : α → Prop}
  (hread : ReadsLinks read chars InRange WellFormed)
include hread

/-- All links are read, and without a remark every one of them is spelled by what it is read as; or
one of them is a wait that is too long. -/
theorem readLinks_cases (links : List (List Char)) :
    (∃ xs remarks, readLinks read links = .ok ⟨some xs, remarks⟩ ∧ (∀ x ∈ xs, InRange x) ∧
      (∀ remark ∈ remarks, remark.text ∈ links) ∧
      (remarks = [] → links.map respellLink = xs.map chars)) ∨
    (∃ argument, callText "wait" argument ∈ links ∧ Span.TooLong argument ∧
      readLinks read links = .error .waitTooLong) := by
  induction links with
  | nil => exact .inl ⟨[], [], rfl, nofun, nofun, fun _ => rfl⟩
  | cons link links ih =>
    rw [readLinks_cons]
    have hlink := hread.reading link
    generalize read link = reading at hlink
    cases hlink with
    | tooLong hwait htoo => exact .inr ⟨_, hwait ▸ List.mem_cons_self, htoo, rfl⟩
    | @spelled x hrange hspelled =>
      obtain ⟨xs, remarks, h, hxs, hremarks, hclean⟩ | ⟨argument, hmem, htoo, h⟩ := ih <;> rw [h]
      · refine .inl ⟨x :: xs, remarks, rfl, List.forall_mem_cons.2 ⟨hrange, hxs⟩,
          fun remark hmem => List.mem_cons_of_mem _ (hremarks remark hmem), fun hnil => ?_⟩
        rw [List.map_cons, List.map_cons, hspelled, hclean hnil]
      · exact .inr ⟨argument, List.mem_cons_of_mem _ hmem, htoo, rfl⟩
    | @remarked value reason hrange =>
      obtain ⟨xs, remarks, h, hxs, hremarks, -⟩ | ⟨argument, hmem, htoo, h⟩ := ih <;> rw [h]
      · refine .inl ⟨value.toList ++ xs, ⟨link, reason⟩ :: remarks, rfl, ?_, ?_, nofun⟩
        · intro x hx
          rcases List.mem_append.1 hx with hx | hx
          · exact hrange x (Option.mem_toList.1 hx)
          · exact hxs x hx
        · exact List.forall_mem_cons.2 ⟨List.mem_cons_self,
            fun remark hmem => List.mem_cons_of_mem _ (hremarks remark hmem)⟩
      · exact .inr ⟨argument, List.mem_cons_of_mem _ hmem, htoo, rfl⟩

theorem readLinks_of_tooLong {links : List (List Char)} {argument : List Char}
    (hmem : callText "wait" argument ∈ links) (htoo : Span.TooLong argument) :
    readLinks read links = .error .waitTooLong := by
  induction links with
  | nil => cases hmem
  | cons link links ih =>
    rw [readLinks_cons]
    rcases List.mem_cons.1 hmem with rfl | hmem
    · rw [hread.tooLong htoo]
      rfl
    · have hlink := hread.reading link
      generalize read link = reading at hlink
      cases hlink with
      | tooLong => rfl
      | spelled | remarked => rw [ih hmem]; rfl

/-- The links of a chain are read back exactly if every one of them is. -/
theorem readLinks_chars_iff {xs : List α} :
    readLinks read (xs.map chars) = .ok (.some xs) ↔ ∀ x ∈ xs, WellFormed x := by
  induction xs with
  | nil => exact iff_of_true rfl nofun
  | cons x xs ih =>
    rw [List.map_cons, readLinks_cons, List.forall_mem_cons, ← ih, ← hread.own]
    constructor
    · intro h
      have hlink := hread.reading (chars x)
      generalize read (chars x) = reading at h hlink
      cases hlink with
      | tooLong => cases h
      | remarked =>
        cases hrest : readLinks read (xs.map chars) with
        | error e => simp [hrest, Except.bind, Except.map] at h
        | ok r => simp [hrest, Except.bind, Except.map, Reading.some] at h
      | spelled =>
        obtain ⟨ys, remarks, hrest, -⟩ | ⟨_, -, -, hrest⟩ := readLinks_cases hread (xs.map chars)
        · simp [hrest, Except.bind, Except.map, Reading.some] at h ⊢
          exact ⟨h.1.1, h.1.2, h.2⟩
        · simp [hrest, Except.bind, Except.map] at h
    · rintro ⟨hx, hxs⟩
      rw [hx, hxs]
      rfl

end

end Script
end BattlePilot
