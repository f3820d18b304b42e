import BattlePilot.Proofs.Script.OwnText
import BattlePilot.Report.Text
import BattlePilot.Text.Lines

/-! Scripts as text. The text of a script has a line for each command and for each warning; the
commands are read back from it, and the lines of the warnings give further warnings only. -/

namespace BattlePilot

/-! ### Lines of a text -/

theorem Text.linesFrom_append {cs : List Char} (h : '\n' ∉ cs) (line rest : List Char) :
    linesFrom line (cs ++ rest) = linesFrom (cs.reverse ++ line) rest := by
  induction cs generalizing line with
  | nil => rfl
  | cons c cs ih =>
    obtain ⟨hc, hcs⟩ := not_or.1 (mt List.mem_cons.2 h)
    rw [List.cons_append, linesFrom, ih hcs, List.reverse_cons, List.append_assoc]
    · rfl
    · exact fun heq => hc heq.symm

/-- Lines that neither hold a line feed nor end in a carriage return are found again. -/
theorem Text.lines_unlines {ls : List String}
    (h : ∀ l ∈ ls, '\n' ∉ l.toList ∧ l.toList.getLast? ≠ some '\r') : lines (unlines ls) = ls := by
  have htoList : (unlines ls).toList = ls.flatMap fun l => l.toList ++ ['\n'] := by
    simp [unlines, String.toList_join, List.flatMap_map]
  rw [lines, htoList]
  clear htoList
  induction ls with
  | nil => rfl
  | cons l ls ih =>
    obtain ⟨⟨hfeed, hreturn⟩, hls⟩ := List.forall_mem_cons.1 h
    have hline : dropReturn l.toList = l.toList := if_neg hreturn
    rw [List.flatMap_cons, List.append_assoc, linesFrom_append hfeed, List.append_nil,
      List.singleton_append, linesFrom, List.reverse_reverse, hline, String.ofList_toList, ih hls]

/-! ### Line feeds -/

namespace Lowercase

/-- The first capital of every run stays above the controls and the space when it is lowered. -/
theorem le_shift_of_mem_runs : ∀ run ∈ runs, 33 ≤ (run.1 : Int) + run.2.2.2 := by
  decide +kernel

theorem le_add_shift {n : Nat} (h : 33 ≤ n) : 33 ≤ (n : Int) + shift n := by
  unfold shift
  split
  · next first last step distance hfind =>
    have hfirst : first ≤ n := by
      have := List.find?_some hfind
      simp only [Bool.and_eq_true, decide_eq_true_eq] at this
      exact this.1.1
    have := le_shift_of_mem_runs _ (List.mem_of_find?_eq_some hfind)
    dsimp only at this
    omega
  · omega

theorem newline_ne_ofNat {n : Nat} (h : 33 ≤ n) : '\n' ≠ Char.ofNat n := by
  intro heq
  by_cases hvalid : n.isValidChar
  · have hofNat : Char.ofNat n = Char.ofNatAux n hvalid := dif_pos hvalid
    have htoNat : 10 = n := congrArg Char.toNat (heq.trans hofNat)
    omega
  · have hofNat : Char.ofNat n = Char.ofNat 0 := dif_neg hvalid
    cases heq.trans hofNat

theorem newline_not_mem_ofChar {c : Char} (h : c ≠ '\n') : '\n' ∉ ofChar c := by
  unfold ofChar
  split
  · next hascii =>
    have hall : ∀ k < 128, Char.ofNat k ≠ '\n' → '\n' ∉ [(Char.ofNat k).toLower] := by decide
    have := hall c.toNat hascii
    rw [Char.ofNat_toNat] at this
    exact this h
  split
  · decide
  · next hascii _ =>
    have hle := @le_add_shift c.toNat (by omega)
    exact fun hmem => newline_ne_ofNat (by omega) (List.mem_singleton.1 hmem)

end Lowercase

namespace Script

theorem newline_not_mem_normalForm (raw : List Char) : '\n' ∉ normalForm raw := by
  intro h
  obtain ⟨c, hc, hnewline⟩ := List.mem_flatMap.1 h
  refine Lowercase.newline_not_mem_ofChar ?_ hnewline
  rintro rfl
  cases (List.mem_filter.1 hc).2

/-! ### Warnings as lines -/

theorem toList_render (w : Warning) : w.render.toList = "warning: line ".toList ++
    (Numeral.digits w.line ++ (": ".toList ++ (w.text.toList ++
      (" (".toList ++ (w.reason.message.toList ++ ")".toList))))) := by
  have hnumber : (toString w.line).toList = Numeral.digits w.line := by
    rw [Nat.toString_eq_repr, Nat.toList_repr, Numeral.digits]
  have hrender : w.render = toString "warning: line " ++ toString w.line ++ ": " ++ w.text ++
      " (" ++ w.reason.message ++ ")" := rfl
  rw [hrender]
  simp only [String.toList_append, hnumber, List.append_assoc]
  rfl

theorem newline_not_mem_render {w : Warning} (h : '\n' ∉ w.text.toList) :
    '\n' ∉ w.render.toList := by
  have hdigits : '\n' ∉ Numeral.digits w.line := fun hmem =>
    Numeral.ne_of_isDigit (Numeral.isDigit_of_mem_digits hmem) rfl rfl
  have hmessage : '\n' ∉ w.reason.message.toList := by
    cases w.reason <;> decide
  rw [toList_render]
  simp [h, hdigits, hmessage]

theorem getLast?_render (w : Warning) : w.render.toList.getLast? = some ')' := by
  simp only [toList_render, ← List.append_assoc]
  exact List.getLast?_concat

theorem chain_warning (text rest : List Char) (links : List (List Char)) :
    chain text ("warning:".toList ++ rest) links = .ok (.none text .unrecognized) := by
  have hcharacter : after? "character" ("warning:".toList ++ rest) = none := rfl
  have hsummon : argument? "summon" ("warning:".toList ++ rest) = none := rfl
  have henemy : argument? "targetenemy" ("warning:".toList ++ rest) = none := rfl
  have hwait : argument? "wait" ("warning:".toList ++ rest) = none := rfl
  have hcolon : ':' ∈ "warning:".toList ++ rest := by simp
  have hitem : Item.ofKeyword? (String.ofList ("warning:".toList ++ rest)) = none :=
    Item.ofKeyword?_eq_none hcolon rfl
  have hquick : "warning:".toList ++ rest ≠ "quicksummon".toList := by
    intro h
    cases h
  rw [chain, hcharacter, hsummon, if_neg hquick, hitem, henemy, hwait]

theorem normalLine_warning (number : Nat) (rest : List Char) :
    normalLine number ("warning:".toList ++ rest) =
      .ok (.none ("warning:".toList ++ rest) .unrecognized) := by
  have hturn : after? "turn" ("warning:".toList ++ rest) = none := rfl
  have hword : word? ("warning:".toList ++ rest) = none := rfl
  obtain ⟨segment, more, hsplit⟩ := @splitChain_append "warning:".toList nofun (by decide) rest
  rw [normalLine, hturn, hword, hsplit]
  exact chain_warning _ _ _

/-- The line of a warning is no command, and gives a warning. -/
theorem line_render (number : Nat) (w : Warning) :
    ∃ warning, line number w.render = .ok ⟨[], [warning]⟩ := by
  have hplain : "warning:".toList.all isPlain = true := by decide
  have htext : "warning: line ".toList = "warning:".toList ++ " line ".toList := by decide
  rw [line_eq, toList_render, htext, List.append_assoc, normalForm_append hplain,
    normalLine_warning]
  exact ⟨_, rfl⟩

theorem parseFrom_warnings (number : Nat) (ws : List Warning) :
    ∃ warnings, parseFrom number (ws.map Warning.render) = .ok ⟨[], warnings⟩ ∧
      warnings.length = ws.length := by
  induction ws generalizing number with
  | nil => exact ⟨[], rfl, rfl⟩
  | cons w ws ih =>
    obtain ⟨warning, hline⟩ := line_render number w
    obtain ⟨warnings, hrest, hlength⟩ := ih (number + 1)
    refine ⟨warning :: warnings, ?_, congrArg (· + 1) hlength⟩
    rw [List.map_cons, parseFrom_cons, hline, hrest]
    rfl

/-! ### Scripts -/

theorem lines_render {lines : List String} {script : Script} (h : parse lines = .ok script) :
    Text.lines script.render =
      script.commands.map Command.text ++ script.warnings.map Warning.render := by
  have hwarnings := (parseFrom_forall (P := fun _ => True) (Q := fun w => '\n' ∉ w.text.toList)
    (fun _ raw _ hline => ⟨fun _ _ => trivial, fun w hw hmem =>
      newline_not_mem_normalForm raw.toList ((line_ok hline).2 w hw hmem)⟩) h).2
  refine Text.lines_unlines (List.forall_mem_append.2 ⟨?_, ?_⟩)
  · refine List.forall_mem_map.2 fun c _ => ?_
    rw [Command.text, String.toList_ofList]
    refine ⟨not_mem_chars c (by decide), fun hlast => ?_⟩
    exact not_mem_chars c (by decide) (List.mem_of_getLast? hlast)
  · refine List.forall_mem_map.2 fun w hw => ⟨newline_not_mem_render (hwarnings w hw), ?_⟩
    rw [getLast?_render]
    decide

/-- Whatever the lines of a script were, its commands are read again from its text. -/
theorem parse_render {lines : List String} {script : Script} (h : parse lines = .ok script)
    (hwell : ∀ c ∈ script.commands, c.WellFormed) :
    ∃ warnings, parse (Text.lines script.render) = .ok ⟨script.commands, warnings⟩ ∧
      warnings.length = script.warnings.length := by
  obtain ⟨warnings, hwarnings, hlength⟩ :=
    parseFrom_warnings (1 + (script.commands.map Command.text).length) script.warnings
  refine ⟨warnings, ?_, hlength⟩
  rw [lines_render h, parse, parseFrom_append, parseFrom_own hwell, Except.bind, hwarnings]
  simp [Except.map, append]

/-- The well-formed commands are exactly those that are read back from their texts. Commands that
have been read are well-formed but for their waits, and are read again from the text of the script
if they are. -/
theorem texts_read_back :
    (∀ n : UInt64, n.toNat < Nat.pow 2 53 → (Span.ofSeconds n).ReadsBack) ∧
    (∀ command : Command, parse [command.text] = .ok ⟨[command], []⟩ ↔ command.WellFormed) ∧
    (∀ command : Command, command.WellFormed ↔
      command.InRange ∧ ∀ d ∈ command.waits, d.ReadsBack) ∧
    ∀ lines script, parse lines = .ok script →
      (∀ command ∈ script.commands, command.InRange) ∧
      ((∀ command ∈ script.commands, command.WellFormed) →
        ∃ warnings, parse (Text.lines script.render) = .ok ⟨script.commands, warnings⟩) := by
  refine ⟨fun n hn => readsBack_iff.2 (Span.ofLiteral?_text_ofSeconds hn), fun _ => parse_own,
    fun _ => Command.wellFormed_iff, fun lines script h => ⟨?_, fun hwell => ?_⟩⟩
  · exact (parseFrom_forall (Q := fun _ => True)
      (fun _ _ _ hline => ⟨(line_ok hline).1, fun _ _ => trivial⟩) h).1
  · obtain ⟨warnings, hagain, -⟩ := parse_render h hwell
    exact ⟨warnings, hagain⟩

/-- The warning on the second line stands after the command, and is passed over again. -/
theorem texts_read_back_warned :
    let command := .character 1 [.useSkill 2, .wait (Span.ofSeconds 90)]
    let script : Script := ⟨[command], [⟨2, "quack", .unrecognized⟩]⟩
    parse ["Character1 .useskill(+2).wait(9e1)", "quack"] = .ok script ∧
      ∃ warnings, parse (Text.lines script.render) = .ok ⟨[command], warnings⟩ := by
  intro command script
  have hparse : parse ["Character1 .useskill(+2).wait(9e1)", "quack"] = .ok script := by
    decide +kernel
  obtain ⟨hseconds, -, hwell, hlines⟩ := texts_read_back
  have hcommand : command.WellFormed := by
    refine (hwell command).2 ⟨(hlines _ _ hparse).1 command List.mem_cons_self, ?_⟩
    exact List.forall_mem_singleton.2 (hseconds 90 (by decide))
  exact ⟨hparse, (hlines _ _ hparse).2 (List.forall_mem_singleton.2 hcommand)⟩

end Script
end BattlePilot
