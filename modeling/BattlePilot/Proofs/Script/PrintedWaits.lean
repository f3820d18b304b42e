import BattlePilot.Proofs.Script.OwnText
import BattlePilot.Proofs.Time.Magnitudes

/-! Printed waits do not drift. The text of a wait may leave out digits that were spelled, but it is
read as the same wait, to the nanosecond. -/

namespace BattlePilot.Script

/-- A wait that is read without a remark is printed as a text that is read without one, as the same
wait; so is the command that waits that long. -/
theorem printed_wait_same {text argument : List Char} {d : Span}
    (h : waitSpan text argument = .ok (.some d)) :
    (∀ text', waitSpan text' d.text = .ok (.some d)) ∧
      parse [(Command.wait d).text] = .ok ⟨[.wait d], []⟩ := by
  have hback : Span.ofLiteral? d.text = some d := Span.ofLiteral?_text (waitSpan_eq_some_iff.1 h)
  exact ⟨fun _ => waitSpan_eq_some_iff.2 hback, parse_own.2 (readsBack_iff.2 hback)⟩

/-- The last digit is not printed, and the nanoseconds that it spells are read all the same. -/
theorem printed_wait_same_shorter :
    ∃ d : Span, d.nanos = 8388608123456789 ∧
      waitSpan [] "8388608.123456789".toList = .ok (.some d) ∧
      d.text = "8388608.12345679".toList ∧
      waitSpan [] "8388608.12345679".toList = .ok (.some d) ∧
      parse ["wait(8388608.12345679)"] = .ok ⟨[.wait d], []⟩ := by
  have hspan : Span.ofLiteral? "8388608.123456789".toList = some ⟨8388608123456789, by decide⟩ := by
    decide +kernel
  have htext : Span.text ⟨8388608123456789, by decide⟩ = "8388608.12345679".toList := by
    decide +kernel
  generalize hd : (⟨8388608123456789, by decide⟩ : Span) = d at hspan htext
  have hread : waitSpan [] "8388608.123456789".toList = .ok (.some d) :=
    waitSpan_eq_some_iff.2 hspan
  have hprinted : (Command.wait d).text = "wait(8388608.12345679)" := by
    have hchars : (Command.wait d).chars = callText "wait" d.text := rfl
    rw [Command.text, hchars, htext]
    rfl
  obtain ⟨hagain, hparse⟩ := printed_wait_same hread
  exact ⟨d, hd ▸ rfl, hread, htext, htext ▸ hagain [], hprinted ▸ hparse⟩

end BattlePilot.Script
