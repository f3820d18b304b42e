import BattlePilot.Proofs.Script.Canonical
import BattlePilot.Proofs.Script.Lines

/-! What becomes of what stands in a line. A line is a bad turn marker, or gets a warning, or gives
one command whose text is the line in canonical spelling; three kinds of lines excepted. Nothing is
said of lines of dots, nor of what follows the number of a turn marker, and the reading of all
lines ends at a wait that is too long. -/

namespace BattlePilot.Script

theorem splitChain_of_dots {cs : List Char} (h : ∀ c ∈ cs, c = '.') : splitChain cs = [] := by
  induction cs with
  | nil => rfl
  | cons c cs ih =>
    obtain ⟨rfl, hcs⟩ := List.forall_mem_cons.1 h
    rw [splitChain, segmentsFrom_dot, List.filter_cons_of_neg (by simp)]
    exact ih hcs

theorem dots_of_splitChain {cs : List Char} (h : splitChain cs = []) : ∀ c ∈ cs, c = '.' := by
  induction cs with
  | nil => exact nofun
  | cons c cs ih =>
    by_cases hdot : c = '.'
    · subst hdot
      rw [splitChain, segmentsFrom_dot, List.filter_cons_of_neg (by simp)] at h
      exact List.forall_mem_cons.2 ⟨rfl, ih h⟩
    · obtain ⟨segment, more, hsegments⟩ :=
        List.exists_cons_of_ne_nil (segmentsFrom_ne_nil (depthAfter 0 c) cs)
      rw [splitChain, segmentsFrom, if_neg fun hc => hdot hc.1, hsegments,
        List.filter_cons_of_pos rfl] at h
      cases h

/-- A chain that reads its waits is no turn marker and none of the words. -/
theorem ReadsWait.head_mem {head argument : List Char} {links : List (List Char)}
    (h : ReadsWait head links argument) :
    head.head? ∈ [some 'w', some 'c', some 's', some 'q'] := by
  cases h <;> simp [callText]

theorem words_head : ∀ entry ∈ words, splitChain entry.1.toList = [entry.1.toList] ∧
    entry.1.toList.head? ∉ [some 'w', some 'c', some 's', some 'q'] := by
  decide

theorem normalLine_of_readsWait {number : Nat} {text head argument : List Char}
    {links : List (List Char)} (hsplit : splitChain text = head :: links)
    (h : ReadsWait head links argument) : normalLine number text = chain text head links := by
  have hturn : after? "turn" text = none := by
    rw [Option.eq_none_iff_forall_ne_some]
    intro rest hrest
    rw [after?_eq_some_iff.1 hrest] at hsplit
    obtain ⟨segment, more, hlinks⟩ := @splitChain_append "turn".toList nofun (by decide) rest
    rw [hlinks] at hsplit
    have hhead := h.head_mem
    rw [← (List.cons.inj hsplit).1] at hhead
    revert hhead
    simp
  have hword : word? text = none := by
    rw [Option.eq_none_iff_forall_ne_some]
    intro command hcommand
    obtain ⟨word, hmem, rfl⟩ := mem_words_of_word? hcommand
    obtain ⟨hlinks, hfirst⟩ := words_head _ hmem
    rw [hlinks] at hsplit
    exact hfirst ((List.cons.inj hsplit).1 ▸ h.head_mem)
  rw [normalLine, hturn, hword, hsplit]

theorem line_of_tooLong {number : Nat} {raw : String} {head argument : List Char}
    {links : List (List Char)} (hsplit : splitChain (normalForm raw.toList) = head :: links)
    (h : ReadsWait head links argument) (htoo : Span.TooLong argument) :
    line number raw = .error .waitTooLong := by
  rw [line_eq, normalLine_of_readsWait hsplit h, chain_of_tooLong h htoo]
  rfl

/-- Whether reading a line tells of everything in it. -/
inductive Accounted (text : List Char) : Except ScriptError Script → Prop where
  | badMarker : Accounted text (.error (.invalidTurn number quoted))
  | warned : script.warnings ≠ [] → Accounted text (.ok script)
  | spelled : normalForm c.chars = respellLine text → Accounted text (.ok ⟨[c], []⟩)

/-- A line in normal form of which something is passed over, and what it is read as. -/
inductive PassedOver (text : List Char) : Except ScriptError Script → Prop where
  | dots : (∀ c ∈ text, c = '.') → PassedOver text (.ok ⟨[], []⟩)
  | marker : text = "turn".toList ++ rest → turnNumber? rest = some n →
      rest.dropWhile (· != ':') ≠ [':'] → PassedOver text (.ok ⟨[.turn n], []⟩)
  | tooLong : splitChain text = head :: links → ReadsWait head links argument →
      Span.TooLong argument → PassedOver text (.error .waitTooLong)

/-- A turn marker is spelled by its command exactly if nothing but a colon follows its number. -/
theorem respellLine_marker {rest : List Char} {n : UInt32} (h : turnNumber? rest = some n) :
    normalForm (Command.turn n).chars = respellLine ("turn".toList ++ rest) ↔
      rest.dropWhile (· != ':') = [':'] := by
  have hnumber : Span.respell (rest.takeWhile (· != ':')) = Numeral.digits n.toNat :=
    Span.respell_of_spells (turnNumber?_eq_some_iff.1 h).1 (Nat.lt_trans n.toNat_lt (by decide))
  rw [normalForm_turn, respellLine, after?_eq_some_iff.2 rfl]
  dsimp only
  rw [hnumber, List.append_assoc, List.append_cancel_left_eq, List.append_cancel_left_eq]
  exact eq_comm

theorem normalLine_of_turnNumber? {rest : List Char} {n : UInt32} (number : Nat)
    (h : turnNumber? rest = some n) :
    normalLine number ("turn".toList ++ rest) = .ok (.some (.turn n)) := by
  rw [normalLine, after?_eq_some_iff.2 rfl]
  simp only [h]

theorem normalLine_of_dots {cs : List Char} (number : Nat) (h : ∀ c ∈ cs, c = '.') :
    normalLine number cs = .ok ⟨none, []⟩ := by
  have hsplit := splitChain_of_dots h
  cases cs with
  | nil => rfl
  | cons c cs =>
    obtain ⟨rfl, -⟩ := List.forall_mem_cons.1 h
    have hturn : after? "turn" ('.' :: cs) = none := rfl
    have hword : word? ('.' :: cs) = none := rfl
    rw [normalLine, hturn, hword, hsplit]

theorem PassedOver.line_eq {raw : String} {result : Except ScriptError Script}
    (h : PassedOver (normalForm raw.toList) result) (number : Nat) : line number raw = result := by
  rw [Script.line_eq]
  cases h with
  | dots hdots =>
    rw [normalLine_of_dots number hdots]
    rfl
  | marker htext hn =>
    rw [htext, normalLine_of_turnNumber? number hn]
    rfl
  | tooLong hsplit hwait htoo =>
    rw [normalLine_of_readsWait hsplit hwait, chain_of_tooLong hwait htoo]
    rfl

/-- Nothing is passed over in a line that is accounted for. -/
theorem PassedOver.not_accounted {text : List Char} {result : Except ScriptError Script}
    (h : PassedOver text result) : ¬ Accounted text result := by
  intro haccounted
  cases h with
  | dots =>
    cases haccounted with
    | warned hne => exact hne rfl
  | marker htext hn hrest =>
    cases haccounted with
    | warned hne => exact hne rfl
    | spelled hspelled => exact hrest ((respellLine_marker hn).1 (htext ▸ hspelled))
  | tooLong => cases haccounted

theorem line_accounted (number : Nat) (raw : String) :
    Accounted (normalForm raw.toList) (line number raw) ∨
      PassedOver (normalForm raw.toList) (line number raw) := by
  have hreading := normalLine_reading number (normalForm raw.toList)
  rw [Script.line_eq]
  generalize normalLine number (normalForm raw.toList) = reading at hreading
  cases hreading with
  | @marker rest n hrest hn =>
    have htext := after?_eq_some_iff.1 hrest
    by_cases hcolon : rest.dropWhile (· != ':') = [':']
    · exact .inl (.spelled (htext ▸ (respellLine_marker hn).2 hcolon))
    · exact .inr (.marker htext hn hcolon)
  | badMarker => exact .inl .badMarker
  | noLinks hsplit => exact .inr (.dots (dots_of_splitChain hsplit))
  | spelled hmarker _ hchars => exact .inl (.spelled ((normalForm_chars hmarker).trans hchars))
  | remarked hne => exact .inl (.warned (mt List.map_eq_nil_iff.1 hne))
  | tooLong hsplit hwait htoo => exact .inr (.tooLong hsplit hwait htoo)

/-- Every line is accounted for unless something of it is passed over, and it is known of which
lines something is. -/
theorem lines_accounted (raw : String) :
    (Accounted (normalForm raw.toList) (parse [raw]) ↔
      ∀ result, ¬ PassedOver (normalForm raw.toList) result) ∧
    ∀ result, PassedOver (normalForm raw.toList) result → parse [raw] = result := by
  rw [parse_singleton]
  refine ⟨⟨fun haccounted result hover => ?_, fun hnone => ?_⟩, fun result hover => hover.line_eq 1⟩
  · exact (hover.line_eq 1 ▸ hover).not_accounted haccounted
  · exact (line_accounted 1 raw).resolve_right (hnone _)

theorem marker_passed_over : parse ["turn 1: attack"] = .ok ⟨[.turn 1], []⟩ :=
  (lines_accounted "turn 1: attack").2 _
    (@PassedOver.marker _ "1:attack".toList 1 (by decide +kernel) (by decide +kernel)
      (by decide +kernel))

theorem dots_unaccounted :
    normalForm "...".toList ≠ [] ∧ ¬ Accounted (normalForm "...".toList) (parse ["..."]) := by
  have hparse : parse ["..."] = .ok ⟨[], []⟩ := by decide +kernel
  refine ⟨by decide +kernel, fun haccounted => ?_⟩
  rw [hparse] at haccounted
  cases haccounted with
  | warned hne => exact hne rfl

end BattlePilot.Script
