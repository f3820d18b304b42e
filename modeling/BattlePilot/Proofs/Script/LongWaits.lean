import BattlePilot.Proofs.Script.Accounted
import BattlePilot.Settings.Rules
import BattlePilot.Settings.Validation

/-! Seconds that are too many. The guards of a wait and of a pause let every finite number from zero
on pass, and spans end below 2⁶⁴ seconds: between the two lie the numbers at which the reading of
a script ends, or a battle. -/

namespace BattlePilot

namespace Script

/-- Whether a line has a wait that is read and is too long. -/
def HasLongWait (raw : String) : Prop :=
  ∃ head links argument, splitChain (normalForm raw.toList) = head :: links ∧
    ReadsWait head links argument ∧ Span.TooLong argument

theorem line_eq_waitTooLong_iff {number : Nat} {raw : String} :
    line number raw = .error .waitTooLong ↔ HasLongWait raw := by
  constructor
  · intro h
    rw [line_eq] at h
    have hreading := normalLine_reading number (normalForm raw.toList)
    generalize normalLine number (normalForm raw.toList) = reading at h hreading
    cases hreading with
    | tooLong hsplit hwait htoo => exact ⟨_, _, _, hsplit, hwait, htoo⟩
    | _ => cases h
  · rintro ⟨head, links, argument, hsplit, hwait, htoo⟩
    exact line_of_tooLong hsplit hwait htoo

/-- The reading of a script ends at the first line that cannot be read. -/
theorem parseFrom_eq_error_iff {number : Nat} {lines : List String} {e : ScriptError} :
    parseFrom number lines = .error e ↔ ∃ before raw after script,
      lines = before ++ raw :: after ∧ parseFrom number before = .ok script ∧
        line (number + before.length) raw = .error e := by
  constructor
  · intro h
    induction lines generalizing number with
    | nil => cases h
    | cons raw rest ih =>
      rw [parseFrom_cons] at h
      cases hfirst : line number raw with
      | error f =>
        rw [hfirst] at h
        cases h
        exact ⟨[], raw, rest, _, rfl, rfl, hfirst⟩
      | ok first =>
        rw [hfirst] at h
        cases hrest : parseFrom (number + 1) rest with
        | ok later => rw [hrest] at h; cases h
        | error f =>
          rw [hrest] at h
          cases h
          obtain ⟨before, bad, after, script, rfl, hbefore, hbad⟩ := ih hrest
          refine ⟨raw :: before, bad, after, first.append script, rfl, ?_, ?_⟩
          · rw [parseFrom_cons, hfirst, hbefore]
            rfl
          · rwa [List.length_cons, Nat.add_comm before.length, ← Nat.add_assoc]
  · rintro ⟨before, raw, after, script, rfl, hbefore, hraw⟩
    rw [parseFrom_append, hbefore, parseFrom_cons, hraw]
    rfl

end Script

namespace Settings

/-- Whether the nearest number of nanoseconds is no span any more. -/
def OutOfReach (units : Nat) : Prop :=
  (2 * Span.limit - 1) * Binary64.one ≤ 2 * (units * Span.nanosPerSecond)

instance (units : Nat) : Decidable (OutOfReach units) :=
  inferInstanceAs (Decidable (_ ≤ _))

theorem pause_eq_tooLong_iff {number : Binary64} {units : Nat}
    (h : number.nonNegative? = some units) : pause number = .tooLong ↔ OutOfReach units := by
  obtain ⟨negative, rfl⟩ := Binary64.eq_of_nonNegative? h
  by_cases hzero : units = 0
  · have hpause : pause (.finite negative units) = .none := by simp [pause, hzero]
    have hreach : 0 < (2 * Span.limit - 1) * Binary64.one :=
      Nat.mul_pos (by decide) Binary64.pos_one
    rw [hpause, OutOfReach, hzero, Nat.zero_mul]
    exact iff_of_false nofun (Nat.not_le_of_lt hreach)
  · have hsign : negative = false := by
      cases negative with
      | false => rfl
      | true => simp [Binary64.nonNegative?, hzero] at h
    have hpause : pause (.finite negative units) = .of (Span.ofMagnitude? units) := by
      simp [pause, hsign, hzero]
    rw [hpause, OutOfReach, ← Span.ofMagnitude?_eq_none_iff]
    cases Span.ofMagnitude? units <;> simp [Pause.of]

theorem outOfReach_iff_of_fits {units : Nat} (h : Binary64.Fits units) :
    OutOfReach units ↔ UInt64.size * Binary64.one ≤ units := by
  rw [OutOfReach, ← Span.ofMagnitude?_eq_none_iff, Span.ofMagnitude?_eq_none_iff_of_fits h]

theorem pauses_of_accepted {s : Settings} (h : s.fault? = none) :
    ∃ skill summon, s.idleAfterSkillSecs.nonNegative? = some skill ∧
      s.idleAfterSummonSecs.nonNegative? = some summon ∧
      (s.idleAfterSkill = .tooLong ↔ OutOfReach skill) ∧
      (s.idleAfterSummon = .tooLong ↔ OutOfReach summon) := by
  have hpauses : ¬ (s.idleAfterSkillSecs.nonNegative?.isNone ∨
      s.idleAfterSummonSecs.nonNegative?.isNone) := by
    intro hbad
    rw [fault?, if_pos hbad] at h
    split at h
    · cases h
    split at h
    · cases h
    split at h <;> cases h
  rw [not_or, Bool.not_eq_true, Bool.not_eq_true, Option.isNone_eq_false_iff,
    Option.isNone_eq_false_iff] at hpauses
  obtain ⟨skill, hskill⟩ := Option.isSome_iff_exists.1 hpauses.1
  obtain ⟨summon, hsummon⟩ := Option.isSome_iff_exists.1 hpauses.2
  exact ⟨skill, summon, hskill, hsummon, pause_eq_tooLong_iff hskill, pause_eq_tooLong_iff hsummon⟩

end Settings

namespace Script

/-- A script is read, or has a bad turn marker, unless it comes to a line with a wait that is too
long; every other wait becomes a span or falls back to one second with a warning. A pause of
accepted settings is a span, or none, unless it is too long. -/
theorem seconds_too_many (lines : List String) (s : Settings) :
    (parse lines = .error .waitTooLong ↔ ∃ before raw after script,
      lines = before ++ raw :: after ∧ parse before = .ok script ∧ HasLongWait raw) ∧
    (parse lines ≠ .error .waitTooLong → (∃ script, parse lines = .ok script) ∨
      ∃ number text, parse lines = .error (.invalidTurn number text)) ∧
    (∀ text argument, ¬ Span.TooLong argument →
      (∃ d, Span.ofLiteral? argument = some d ∧ waitSpan text argument = .ok (.some d)) ∨
      Span.ofLiteral? argument = none ∧
        waitSpan text argument = .ok ⟨defaultWait, [⟨text, .malformedWait⟩]⟩) ∧
    (s.fault? = none → ∃ skill summon,
      s.idleAfterSkillSecs.nonNegative? = some skill ∧
      s.idleAfterSummonSecs.nonNegative? = some summon ∧
      (s.idleAfterSkill = .tooLong ↔ Settings.OutOfReach skill) ∧
      (s.idleAfterSummon = .tooLong ↔ Settings.OutOfReach summon)) ∧
    ∀ units, Binary64.Fits units →
      (Settings.OutOfReach units ↔ UInt64.size * Binary64.one ≤ units) := by
  refine ⟨?_, fun hshort => ?_, fun text argument hshort => ?_, Settings.pauses_of_accepted,
    fun units => Settings.outOfReach_iff_of_fits⟩
  · simp only [parse, parseFrom_eq_error_iff, line_eq_waitTooLong_iff]
  · rcases h : parse lines with e | script
    · cases e with
      | invalidTurn number text => exact .inr ⟨number, text, rfl⟩
      | waitTooLong => exact absurd h hshort
    · exact .inl ⟨script, rfl⟩
  · rcases waitSpan_cases text argument with h | ⟨hnone, -, h⟩ | ⟨htoo, -⟩
    · exact .inl h
    · exact .inr ⟨hnone, h⟩
    · exact absurd htoo hshort

theorem long_seconds_abort :
    parse ["wait(1e20)"] = .error .waitTooLong ∧ ∃ s : Settings,
      s.fault? = none ∧ s.idleAfterSkill = .tooLong ∧ s.idleAfterSummon = .tooLong := by
  let long : Binary64 := .finite false (100000000000000000000 * Binary64.one)
  refine ⟨by decide +kernel, { idleAfterSkillSecs := long, idleAfterSummonSecs := long }, ?_⟩
  decide +kernel

/-- A script is read up to the wait; the usual settings pause for a moment that can be reached. -/
theorem seconds_too_many_later :
    parse ["attack", "Wait(1e20)"] = .error .waitTooLong ∧
      ({} : Settings).idleAfterSkill ≠ .tooLong := by
  obtain ⟨hparse, -, -, hpauses, -⟩ := seconds_too_many ["attack", "Wait(1e20)"] {}
  have htoo : Span.TooLong "1e20".toList :=
    ⟨100000000000000000000 * Binary64.one, by decide +kernel, by decide +kernel⟩
  refine ⟨hparse.2 ⟨["attack"], "Wait(1e20)", [], ⟨[.byHand .attack], []⟩, rfl,
    by decide +kernel, callText "wait" "1e20".toList, [], "1e20".toList, by decide +kernel, .alone,
    htoo⟩, ?_⟩
  obtain ⟨skill, -, hskill, -, hiff, -⟩ := hpauses (by decide +kernel)
  cases hskill
  exact fun h => absurd (hiff.1 h) (by decide +kernel)

end Script
end BattlePilot
