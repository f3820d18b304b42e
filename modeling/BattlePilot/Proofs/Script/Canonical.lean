import BattlePilot.Proofs.Script.Splitting
import BattlePilot.Proofs.Number.Seconds
import BattlePilot.Script.Line

/-! Canonical texts. They have no capitals and no comments, and blanks only in turn markers, so each
is its own normal form but for those blanks; and the text of a link can stand between dots. -/

namespace BattlePilot
namespace Script

/-- Whether a character is kept as it is by the normal form. -/
def isPlain (c : Char) : Bool :=
  Lowercase.ofChar c == [c] && !isBlank c && c != '#' && c != '/'

theorem isPlain_of_isDigit {c : Char} (h : Numeral.isDigit c = true) : isPlain c = true := by
  obtain ⟨hlow, hhigh⟩ := Numeral.toNat_of_isDigit h
  have hlower : Lowercase.ofChar c = [c] := by
    rw [Lowercase.ofChar_ascii (by omega), Literal.toLower_of_isDigit h]
  have hblank : isBlank c = false := by
    simp [isBlank]
    omega
  have hhash : c ≠ '#' := Numeral.ne_of_isDigit h rfl
  have hslash : c ≠ '/' := Numeral.ne_of_isDigit h rfl
  simp [isPlain, hlower, hblank, hhash, hslash]

theorem isPlain_digits (n : Nat) : (Numeral.digits n).all isPlain = true :=
  List.all_eq_true.2 fun _ h => isPlain_of_isDigit (Numeral.isDigit_of_mem_digits h)

theorem isPlain_text (d : Span) : d.text.all isPlain = true := by
  refine List.all_eq_true.2 fun c h => ?_
  rcases Span.isDigit_or_point_of_mem_text h with h | rfl
  · exact isPlain_of_isDigit h
  · decide

theorem isPlain_append {cs ds : List Char} (hcs : cs.all isPlain = true)
    (hds : ds.all isPlain = true) : (cs ++ ds).all isPlain = true := by
  rw [List.all_append, hcs, hds, Bool.and_self]

theorem isPlain_callText {name : String} {argument : List Char}
    (hname : name.toList.all isPlain = true) (hargument : argument.all isPlain = true) :
    (callText name argument).all isPlain = true := by
  have hopen : ['('].all isPlain = true := rfl
  exact isPlain_append (isPlain_append hname (isPlain_append hopen hargument)) rfl

theorem isPlain_links {links : List (List Char)} (h : ∀ link ∈ links, link.all isPlain = true) :
    (Command.links links).all isPlain = true := by
  refine List.all_eq_true.2 fun c hc => ?_
  obtain ⟨link, hlink, hc⟩ := List.mem_flatMap.1 hc
  rcases List.mem_cons.1 hc with rfl | hc
  · decide
  · exact List.all_eq_true.1 (h link hlink) c hc

theorem isPlain_skillOp (op : SkillOp) : op.chars.all isPlain = true := by
  cases op with
  | useSkill | target => exact isPlain_callText (by decide) (isPlain_digits _)
  | wait d => exact isPlain_callText (by decide) (isPlain_text d)
  | attack => decide

theorem isPlain_followUp (op : FollowUp) : op.chars.all isPlain = true := by
  cases op with
  | wait d => exact isPlain_callText (by decide) (isPlain_text d)
  | attack => decide

/-- Blanks stand in turn markers only. -/
theorem isPlain_chars {command : Command} (h : command.isMarker = false) :
    command.chars.all isPlain = true := by
  cases command with
  | turn => cases h
  | character slot ops =>
    refine isPlain_append (isPlain_append (by decide) (isPlain_digits _))
      (isPlain_links (List.forall_mem_map.2 fun op _ => isPlain_skillOp op))
  | summon slot after =>
    exact isPlain_append (isPlain_callText (by decide) (isPlain_digits _))
      (isPlain_links (List.forall_mem_map.2 fun op _ => isPlain_followUp op))
  | quickSummon after =>
    exact isPlain_append (by decide)
      (isPlain_links (List.forall_mem_map.2 fun op _ => isPlain_followUp op))
  | item i target =>
    have hkeyword : i.keyword.toList.all isPlain = true := by cases i <;> decide
    cases target with
    | none => exact hkeyword
    | some slot =>
      exact isPlain_append hkeyword
        (isPlain_links (by simpa using isPlain_callText (by decide) (isPlain_digits _)))
  | targetEnemy => exact isPlain_callText (by decide) (isPlain_digits _)
  | wait => exact isPlain_callText (by decide) (isPlain_text _)
  | enableAuto kind => cases kind <;> decide
  | requestBackup viaSocial => cases viaSocial <;> decide
  | byHand action => cases action <;> decide
  | endTurn | repeatAttack | exit => decide

theorem beforeComment_cons {c : Char} (hhash : c ≠ '#') (hslash : c ≠ '/') (rest : List Char) :
    beforeComment (c :: rest) = c :: beforeComment rest := by
  rw [beforeComment]
  · exact hhash
  · exact fun _ h => absurd h hslash

theorem normalForm_cons {c : Char} (h : isPlain c = true) (rest : List Char) :
    normalForm (c :: rest) = c :: normalForm rest := by
  simp only [isPlain, Bool.and_eq_true, beq_iff_eq, bne_iff_ne] at h
  obtain ⟨⟨⟨hlower, hblank⟩, hhash⟩, hslash⟩ := h
  rw [normalForm, beforeComment_cons hhash hslash, List.filter_cons, if_pos hblank,
    List.flatMap_cons, hlower]
  rfl

theorem normalForm_cons_blank {c : Char} (h : isBlank c = true) (rest : List Char) :
    normalForm (c :: rest) = normalForm rest := by
  have hhash : c ≠ '#' := by rintro rfl; cases h
  have hslash : c ≠ '/' := by rintro rfl; cases h
  rw [normalForm, beforeComment_cons hhash hslash, List.filter_cons_of_neg (by simp [h])]
  rfl

theorem normalForm_append {cs : List Char} (h : cs.all isPlain = true) (rest : List Char) :
    normalForm (cs ++ rest) = cs ++ normalForm rest := by
  induction cs with
  | nil => rfl
  | cons c cs ih =>
    obtain ⟨hc, hcs⟩ := Bool.and_eq_true_iff.1 (List.all_cons.symm.trans h)
    rw [List.cons_append, normalForm_cons hc, ih hcs, List.cons_append]

theorem normalForm_chars {command : Command} (h : command.isMarker = false) :
    normalForm command.chars = command.chars := by
  have := normalForm_append (isPlain_chars h) []
  rwa [List.append_nil, show normalForm [] = [] from rfl, List.append_nil] at this

theorem normalForm_turn (n : UInt32) :
    normalForm (Command.turn n).chars = "turn".toList ++ (Numeral.digits n.toNat ++ [':']) := by
  have htext : (Command.turn n).chars = "turn ".toList ++ Numeral.digits n.toNat ++ [':'] := rfl
  have hspaced : "turn ".toList = "turn".toList ++ [' '] := by decide
  have hword : "turn".toList.all isPlain = true := by decide
  have hblank : isBlank ' ' = true := by decide
  have hcolon : normalForm [':'] = [':'] := by decide
  rw [htext, hspaced, List.append_assoc, List.append_assoc, normalForm_append hword,
    List.singleton_append, normalForm_cons_blank hblank, normalForm_append (isPlain_digits _),
    hcolon]

/-- The space in a turn marker is the only character that is not kept. -/
theorem not_mem_chars (command : Command) {c : Char} (h : c ≠ ' ' ∧ ¬ isPlain c = true) :
    c ∉ command.chars := by
  intro hmem
  by_cases hmarker : command.isMarker = true
  · cases command with
    | turn n =>
      have hword : "turn ".toList.all (fun d => d == ' ' || isPlain d) = true := by decide
      rcases List.mem_append.1 hmem with hmem | hmem
      · rcases List.mem_append.1 hmem with hmem | hmem
        · have := List.all_eq_true.1 hword c hmem
          simp only [Bool.or_eq_true, beq_iff_eq] at this
          exact this.elim h.1 h.2
        · exact h.2 (List.all_eq_true.1 (isPlain_digits _) c hmem)
      · rw [List.mem_singleton.1 hmem] at h
        exact h.2 (by decide)
    | _ => cases hmarker
  · exact h.2 (List.all_eq_true.1 (isPlain_chars (Bool.eq_false_iff.2 hmarker)) c hmem)

/-! ### Links -/

theorem not_paren_of_isDigit {c : Char} (h : Numeral.isDigit c = true) : c ≠ '(' ∧ c ≠ ')' :=
  ⟨Numeral.ne_of_isDigit h rfl, Numeral.ne_of_isDigit h rfl⟩

theorem isLink_callText_digits {name : String} (hname : name.toList.all isBare = true) (n : Nat) :
    IsLink (callText name (Numeral.digits n)) :=
  isLink_callText hname fun _ h => not_paren_of_isDigit (Numeral.isDigit_of_mem_digits h)

/-- The point in a span of seconds stands in parentheses. -/
theorem isLink_callText_text {name : String} (hname : name.toList.all isBare = true) (d : Span) :
    IsLink (callText name d.text) := by
  refine isLink_callText hname fun c h => ?_
  rcases Span.isDigit_or_point_of_mem_text h with h | rfl
  · exact not_paren_of_isDigit h
  · decide

theorem isLink_skillOp (op : SkillOp) : IsLink op.chars := by
  cases op with
  | useSkill | target => exact isLink_callText_digits (by decide) _
  | wait d => exact isLink_callText_text (by decide) d
  | attack => exact isLink_of_bare (by decide) (by decide)

theorem isLink_followUp (op : FollowUp) : IsLink op.chars := by
  cases op with
  | wait d => exact isLink_callText_text (by decide) d
  | attack => exact isLink_of_bare (by decide) (by decide)

theorem isLink_character (slot : UInt8) :
    IsLink ("character".toList ++ Numeral.digits slot.toNat) := by
  have hdigits : (Numeral.digits slot.toNat).all isBare = true := by
    refine List.all_eq_true.2 fun c h => ?_
    have hdigit := Numeral.isDigit_of_mem_digits h
    obtain ⟨hopen, hclose⟩ := not_paren_of_isDigit hdigit
    have hdot : c ≠ '.' := Numeral.ne_of_isDigit hdigit rfl
    simp [isBare, hdot, hopen, hclose]
  refine isLink_of_bare (by simp) ?_
  rw [List.all_append, hdigits, Bool.and_true]
  decide

theorem isLink_keyword (item : Item) : IsLink item.keyword.toList := by
  cases item <;> exact isLink_of_bare (by decide) (by decide)

end Script
end BattlePilot
