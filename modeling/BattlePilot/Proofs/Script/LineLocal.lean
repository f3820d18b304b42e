import BattlePilot.Proofs.Script.LongWaits

/-! Every line is read on its own. Lines that stand further down are read in the same way, and only
the numbers of the lines differ in what is said of them; the reading fails at the first turn marker
without a good number. -/

namespace BattlePilot

def Warning.shifted (k : Nat) (w : Warning) : Warning := { w with line := w.line + k }

def ScriptError.shifted (k : Nat) : ScriptError → ScriptError
  | invalidTurn line text => invalidTurn (line + k) text
  | waitTooLong => waitTooLong

namespace Script

def shifted (k : Nat) (s : Script) : Script := ⟨s.commands, s.warnings.map (·.shifted k)⟩

/-- What lines are read as that stand `k` lines further down. -/
def moved (k : Nat) (reading : Except ScriptError Script) : Except ScriptError Script :=
  (reading.map (shifted k)).mapError (·.shifted k)

/-! ### Lines that stand further down -/

/-- A chain does not know its line. -/
theorem chain_mapError (k : Nat) (text head : List Char) (links : List (List Char)) :
    (chain text head links).mapError (·.shifted k) = chain text head links := by
  have hreading := chain_reading text head links
  generalize chain text head links = reading at hreading
  cases hreading with
  | spelled | remarked | tooLong => rfl

theorem normalLine_add (number k : Nat) (text : List Char) :
    normalLine (number + k) text = (normalLine number text).mapError (·.shifted k) := by
  unfold normalLine
  split
  · split <;> rfl
  split
  · rfl
  split
  · rfl
  · exact (chain_mapError k _ _ _).symm

theorem line_add (number k : Nat) (raw : String) :
    line (number + k) raw = moved k (line number raw) := by
  rw [line_eq, line_eq, normalLine_add]
  cases normalLine number (normalForm raw.toList) with
  | error e => rfl
  | ok r => simp [moved, Except.map, Except.mapError, Reading.script, shifted, Warning.shifted]

theorem shifted_append (k : Nat) (s t : Script) :
    (s.append t).shifted k = (s.shifted k).append (t.shifted k) := by
  simp [shifted, append]

theorem parseFrom_add (number k : Nat) (lines : List String) :
    parseFrom (number + k) lines = moved k (parseFrom number lines) := by
  induction lines generalizing number with
  | nil => rfl
  | cons raw rest ih =>
    have hnext : number + k + 1 = number + 1 + k := Nat.add_right_comm ..
    rw [parseFrom_cons, parseFrom_cons, line_add, hnext, ih]
    cases line number raw with
    | error e => rfl
    | ok first =>
      cases parseFrom (number + 1) rest with
      | error e => rfl
      | ok later => exact congrArg Except.ok (shifted_append k first later).symm

theorem parse_append (before after : List String) :
    parse (before ++ after) = (parse before).bind fun first =>
      (moved before.length (parse after)).map first.append := by
  rw [parse, parseFrom_append, parseFrom_add]
  rfl

/-! ### Turn markers without a good number -/

/-- A turn marker in normal form whose number, which ends at the first colon, is none that a turn
can have. -/
def IsBadMarker (text : List Char) : Prop :=
  ∃ rest, text = "turn".toList ++ rest ∧
    ¬ ∃ n, 0 < n ∧ n < UInt32.size ∧ Numeral.Spells (rest.takeWhile (· != ':')) n

def HasBadMarker (raw : String) : Prop := IsBadMarker (normalForm raw.toList)

theorem turnNumber?_eq_none_iff {rest : List Char} :
    turnNumber? rest = none ↔
      ¬ ∃ n, 0 < n ∧ n < UInt32.size ∧ Numeral.Spells (rest.takeWhile (· != ':')) n := by
  rw [Option.eq_none_iff_forall_ne_some, ← not_exists, not_iff_not]
  simp only [turnNumber?_eq_some_iff]
  constructor
  · rintro ⟨n, hspells, hpos⟩
    exact ⟨n.toNat, hpos, n.toNat_lt, hspells⟩
  · rintro ⟨n, hpos, hlt, hspells⟩
    have htoNat : (UInt32.ofNat n).toNat = n := Nat.mod_eq_of_lt hlt
    exact ⟨UInt32.ofNat n, htoNat.symm ▸ hspells, htoNat.symm ▸ hpos⟩

theorem normalLine_eq_invalidTurn_iff {number : Nat} {text : List Char} {n : Nat}
    {quoted : String} : normalLine number text = .error (.invalidTurn n quoted) ↔
      IsBadMarker text ∧ n = number ∧ quoted = String.ofList text := by
  constructor
  · intro h
    unfold normalLine at h
    split at h
    · next rest hrest =>
      split at h
      · cases h
      · next hnone =>
        cases h
        exact ⟨⟨rest, after?_eq_some_iff.1 hrest, turnNumber?_eq_none_iff.1 hnone⟩, rfl, rfl⟩
    split at h
    · cases h
    split at h
    · cases h
    · next head links _ =>
      -- a chain ends the reading by a wait only
      have hchain := chain_reading text head links
      rw [h] at hchain
      cases hchain
  · rintro ⟨⟨rest, rfl, hbad⟩, rfl, rfl⟩
    rw [normalLine, after?_eq_some_iff.2 rfl]
    simp only [turnNumber?_eq_none_iff.2 hbad]

theorem line_eq_invalidTurn_iff {number n : Nat} {raw quoted : String} :
    line number raw = .error (.invalidTurn n quoted) ↔
      HasBadMarker raw ∧ n = number ∧ quoted = String.ofList (normalForm raw.toList) := by
  rw [HasBadMarker, ← normalLine_eq_invalidTurn_iff, line_eq]
  cases normalLine number (normalForm raw.toList) with
  | error e => exact ⟨fun h => by cases h; rfl, fun h => by cases h; rfl⟩
  | ok r => exact ⟨nofun, nofun⟩

/-- Every line of a script that is read is read itself. -/
theorem not_hasBadMarker_of_parse {lines : List String} {s : Script} (h : parse lines = .ok s)
    {raw : String} (hmem : raw ∈ lines) : ¬ HasBadMarker raw := by
  intro hbad
  obtain ⟨before, after, rfl⟩ := List.append_of_mem hmem
  rw [parse, parseFrom_append, parseFrom_cons, line_eq_invalidTurn_iff.2 ⟨hbad, rfl, rfl⟩] at h
  cases hbefore : parseFrom 1 before with
  | error e => rw [hbefore] at h; cases h
  | ok first => rw [hbefore] at h; cases h

/-- The first line with a bad marker, and the fault that names it. -/
inductive FirstBad (lines : List String) : ScriptError → Prop where
  | mk (hlines : lines = before ++ raw :: after) (hbefore : ∀ l ∈ before, ¬ HasBadMarker l)
    (hbad : HasBadMarker raw) :
    FirstBad lines (.invalidTurn (before.length + 1) (String.ofList (normalForm raw.toList)))

theorem firstBad_of_parse {lines : List String} {n : Nat} {quoted : String}
    (h : parse lines = .error (.invalidTurn n quoted)) :
    FirstBad lines (.invalidTurn n quoted) := by
  obtain ⟨before, raw, after, script, hlines, hbefore, hraw⟩ := parseFrom_eq_error_iff.1 h
  obtain ⟨hbad, rfl, rfl⟩ := line_eq_invalidTurn_iff.1 hraw
  rw [Nat.add_comm]
  exact .mk hlines (fun _ => not_hasBadMarker_of_parse hbefore) hbad

theorem FirstBad.exists_mem (h : FirstBad lines e) : ∃ raw ∈ lines, HasBadMarker raw := by
  cases h with
  | mk hlines _ hbad => exact ⟨_, hlines ▸ List.mem_append_right _ List.mem_cons_self, hbad⟩

/-- Where no wait is too long, the lines before the first bad marker are read. -/
theorem FirstBad.parse_eq {lines : List String} {e : ScriptError} (h : FirstBad lines e)
    (hshort : parse lines ≠ .error .waitTooLong) : parse lines = .error e := by
  cases h with
  | @mk before raw after hlines hbefore hbad =>
    subst hlines
    rw [parse_append] at hshort
    match hread : parse before with
    | .ok script =>
      refine parseFrom_eq_error_iff.2 ⟨before, raw, after, script, rfl, hread, ?_⟩
      exact line_eq_invalidTurn_iff.2 ⟨hbad, Nat.add_comm .., rfl⟩
    | .error .waitTooLong =>
      rw [hread] at hshort
      exact absurd rfl hshort
    | .error (.invalidTurn n quoted) =>
      obtain ⟨other, hmem, hother⟩ := (firstBad_of_parse hread).exists_mem
      exact absurd hother (hbefore other hmem)

/-- What comes after some lines is read as on its own, but for the numbers of its lines; and unless
a wait is too long, lines cannot be read exactly if one of them has a bad marker, and the fault is
that of the first such line. -/
theorem read_line_by_line (first second lines : List String) :
    (∀ e, parse first = .error e → parse (first ++ second) = .error e) ∧
    (∀ s, parse first = .ok s →
      (∀ n text, parse second = .error (.invalidTurn n text) →
        parse (first ++ second) = .error (.invalidTurn (n + first.length) text)) ∧
      ∀ t, parse second = .ok t → parse (first ++ second) = .ok
        ⟨s.commands ++ t.commands,
          s.warnings ++ t.warnings.map fun w => { w with line := w.line + first.length }⟩) ∧
    (parse lines ≠ .error .waitTooLong →
      ((∃ e, parse lines = .error e) ↔ ∃ raw ∈ lines, HasBadMarker raw) ∧
      ∀ e, parse lines = .error e ↔ FirstBad lines e) := by
  rw [parse_append]
  refine ⟨fun e he => ?_, fun s hs => ⟨fun n text ht => ?_, fun t ht => ?_⟩, fun hshort => ?_⟩
  · rw [he]
    rfl
  · rw [hs, ht]
    rfl
  · rw [hs, ht]
    rfl
  have hfirst (e : ScriptError) (h : parse lines = .error e) : FirstBad lines e := by
    cases e with
    | invalidTurn n quoted => exact firstBad_of_parse h
    | waitTooLong => exact absurd h hshort
  refine ⟨⟨fun ⟨e, h⟩ => (hfirst e h).exists_mem, fun ⟨raw, hmem, hbad⟩ => ?_⟩,
    fun e => ⟨hfirst e, fun h => h.parse_eq hshort⟩⟩
  cases h : parse lines with
  | error e => exact ⟨e, rfl⟩
  | ok s => exact absurd hbad (not_hasBadMarker_of_parse h hmem)

/-- The bad marker has the number of its line among all lines, and so has the line of a warning. -/
theorem read_line_by_line_marker :
    let bad := ["quack", "Turn 4294967296: x"]
    let fault (n : Nat) : ScriptError := .invalidTurn n "turn4294967296:x"
    parse (bad ++ ["turn"]) = .error (fault 2) ∧ parse (["attack"] ++ bad) = .error (fault 3) ∧
      parse (["attack"] ++ ["quack"]) = .ok ⟨[.byHand .attack], [⟨2, "quack", .unrecognized⟩]⟩ ∧
      FirstBad bad (fault 2) := by
  intro bad fault
  have hbad : parse bad = .error (fault 2) := by decide +kernel
  have hattack : parse ["attack"] = .ok ⟨[.byHand .attack], []⟩ := by decide +kernel
  have hquack : parse ["quack"] = .ok ⟨[], [⟨1, "quack", .unrecognized⟩]⟩ := by decide +kernel
  obtain ⟨-, hafter, hfirst⟩ := read_line_by_line ["attack"] bad bad
  obtain ⟨-, hwarned, -⟩ := read_line_by_line ["attack"] ["quack"] []
  have hshort : parse bad ≠ .error .waitTooLong := by
    rw [hbad]
    nofun
  exact ⟨(read_line_by_line bad ["turn"] []).1 _ hbad, (hafter _ hattack).1 _ _ hbad,
    (hwarned _ hattack).2 _ hquack, ((hfirst hshort).2 _).1 hbad⟩

end Script
end BattlePilot
