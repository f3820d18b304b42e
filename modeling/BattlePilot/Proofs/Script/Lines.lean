import BattlePilot.Proofs.Script.Chains

/-! What a line is read as, and what the readings of its lines make of a script. -/

namespace BattlePilot.Script

/-! ### Lines in normal form -/

theorem mem_words_of_word? {text : List Char} {command : Command} (h : word? text = some command) :
    ∃ word, (word, command) ∈ words ∧ word.toList = text := by
  obtain ⟨⟨word, c⟩, hfind, rfl⟩ := Option.map_eq_some_iff.1 h
  exact ⟨word, List.mem_of_find?_eq_some hfind, by simpa using List.find?_some hfind⟩

theorem words_spelled : ∀ entry ∈ words, entry.2.isMarker = false ∧
    entry.2.chars = entry.1.toList ∧ respellLine entry.1.toList = entry.1.toList := by
  decide +kernel

theorem words_inRange : ∀ entry ∈ words, entry.2.InRange := by
  simp [words, Command.InRange]

theorem turnNumber?_eq_some_iff {rest : List Char} {n : UInt32} :
    turnNumber? rest = some n ↔
      Numeral.Spells (rest.takeWhile (· != ':')) n.toNat ∧ 0 < n.toNat := by
  rw [turnNumber?, Option.bind_eq_bind, Option.bind_eq_some_iff]
  simp only [Option.ite_none_right_eq_some, Option.some.injEq, Numeral.read?_eq_some_iff]
  constructor
  · rintro ⟨m, ⟨hspells, hlt⟩, hpos, rfl⟩
    have htoNat : (UInt32.ofNat m).toNat = m := Nat.mod_eq_of_lt hlt
    exact ⟨htoNat.symm ▸ hspells, htoNat.symm ▸ hpos⟩
  · rintro ⟨hspells, hpos⟩
    exact ⟨n.toNat, ⟨hspells, n.toNat_lt⟩, hpos, UInt32.ofNat_toNat⟩

/-- What a line in normal form may be read as. -/
inductive LineReading (number : Nat) (text : List Char) :
    Except ScriptError (Reading Command) → Prop where
  | marker : after? "turn" text = some rest → turnNumber? rest = some n →
      LineReading number text (.ok (.some (.turn n)))
  | badMarker : LineReading number text (.error (.invalidTurn number (String.ofList text)))
  | noLinks : splitChain text = [] → LineReading number text (.ok ⟨none, []⟩)
  | spelled : c.isMarker = false → c.InRange → c.chars = respellLine text →
      LineReading number text (.ok (.some c))
  | remarked : remarks ≠ [] → (∀ c ∈ value, c.InRange) → (∀ remark ∈ remarks, remark.text ⊆ text) →
      LineReading number text (.ok ⟨value, remarks⟩)
  | tooLong : splitChain text = head :: links → ReadsWait head links argument →
      Span.TooLong argument → LineReading number text (.error .waitTooLong)

theorem normalLine_reading (number : Nat) (text : List Char) :
    LineReading number text (normalLine number text) := by
  unfold normalLine
  split
  · next rest hrest =>
    split
    · next n hn => exact .marker hrest hn
    · exact .badMarker
  next hturn =>
  replace hturn : after? "turn" text = none := Option.eq_none_iff_forall_ne_some.2 hturn
  split
  · next command hword =>
    obtain ⟨word, hmem, rfl⟩ := mem_words_of_word? hword
    obtain ⟨hmarker, hchars, hspelled⟩ := words_spelled _ hmem
    exact .spelled hmarker (words_inRange _ hmem) (hchars.trans hspelled.symm)
  split
  · next hsplit => exact .noLinks hsplit
  · next head links hsplit =>
    have hsubset : ∀ link ∈ head :: links, link ⊆ text :=
      fun link hlink => subset_of_mem_splitChain (hsplit ▸ hlink)
    have hchain := chain_reading text head links
    generalize chain text head links = reading at hchain
    cases hchain with
    | spelled hmarker hrange hchars =>
      refine .spelled hmarker hrange ?_
      rw [respellLine, hturn]
      dsimp only
      rw [hsplit, List.map_cons, intercalate_eq_links, hchars]
    | remarked hne hrange htext =>
      refine .remarked hne hrange fun remark hmem => ?_
      rcases htext remark hmem with h | h
      · exact h ▸ List.Subset.refl _
      · exact hsubset _ h
    | tooLong hwait htoo => exact .tooLong hsplit hwait htoo

/-! ### Lines and scripts -/

/-- The script of one line. -/
def Reading.script (number : Nat) (r : Reading Command) : Script :=
  ⟨r.value.toList, r.remarks.map fun remark => ⟨number, String.ofList remark.text, remark.reason⟩⟩

theorem line_eq (number : Nat) (raw : String) :
    line number raw = (normalLine number (normalForm raw.toList)).map (·.script number) := by
  rw [line]
  cases normalLine number (normalForm raw.toList) <;> rfl

theorem parseFrom_cons (number : Nat) (raw : String) (rest : List String) :
    parseFrom number (raw :: rest) = (line number raw).bind fun first =>
      (parseFrom (number + 1) rest).map first.append := by
  rw [parseFrom]
  cases line number raw with
  | error e => rfl
  | ok first => cases parseFrom (number + 1) rest <;> rfl

theorem append_empty (s : Script) : s.append ⟨[], []⟩ = s := by
  simp [append]

theorem append_assoc (a b c : Script) : (a.append b).append c = a.append (b.append c) := by
  simp [append]

theorem parse_singleton (raw : String) : parse [raw] = line 1 raw := by
  rw [parse, parseFrom_cons]
  cases line 1 raw with
  | error e => rfl
  | ok s => exact congrArg Except.ok (append_empty s)

/-- Lines are read on from where the lines before them end. -/
theorem parseFrom_append (number : Nat) (before after : List String) :
    parseFrom number (before ++ after) = (parseFrom number before).bind fun first =>
      (parseFrom (number + before.length) after).map first.append := by
  induction before generalizing number with
  | nil =>
    rw [List.nil_append, parseFrom, List.length_nil, Nat.add_zero]
    cases parseFrom number after <;> rfl
  | cons raw before ih =>
    have hnumber : number + (before.length + 1) = number + 1 + before.length := by omega
    rw [List.cons_append, parseFrom_cons, parseFrom_cons, ih, List.length_cons, hnumber]
    cases line number raw with
    | error e => rfl
    | ok first =>
      cases parseFrom (number + 1) before with
      | error e => rfl
      | ok second =>
        cases parseFrom (number + 1 + before.length) after with
        | error e => rfl
        | ok third => exact congrArg Except.ok (append_assoc first second third).symm

/-- What holds of the commands and warnings of every line holds of those of every script. -/
theorem parseFrom_forall {P : Command → Prop} {Q : Warning → Prop}
    (hline : ∀ number raw s, line number raw = .ok s →
      (∀ c ∈ s.commands, P c) ∧ ∀ w ∈ s.warnings, Q w)
    {number : Nat} {lines : List String} {s : Script} (h : parseFrom number lines = .ok s) :
    (∀ c ∈ s.commands, P c) ∧ ∀ w ∈ s.warnings, Q w := by
  induction lines generalizing number s with
  | nil =>
    cases h
    exact ⟨nofun, nofun⟩
  | cons raw rest ih =>
    rw [parseFrom_cons] at h
    cases hfirst : line number raw with
    | error e => rw [hfirst] at h; cases h
    | ok first =>
      cases hrest : parseFrom (number + 1) rest with
      | error e => rw [hfirst, hrest] at h; cases h
      | ok later =>
        rw [hfirst, hrest] at h
        cases h
        obtain ⟨hcommands, hwarnings⟩ := hline number raw first hfirst
        obtain ⟨hcommands', hwarnings'⟩ := ih hrest
        exact ⟨List.forall_mem_append.2 ⟨hcommands, hcommands'⟩,
          List.forall_mem_append.2 ⟨hwarnings, hwarnings'⟩⟩

/-- A line is read to commands that are in range, and to warnings that quote its normal form. -/
theorem line_ok {number : Nat} {raw : String} {s : Script} (h : line number raw = .ok s) :
    (∀ c ∈ s.commands, c.InRange) ∧ ∀ w ∈ s.warnings, w.text.toList ⊆ normalForm raw.toList := by
  rw [line_eq] at h
  have hreading := normalLine_reading number (normalForm raw.toList)
  generalize normalLine number (normalForm raw.toList) = reading at h hreading
  cases hreading with
  | @marker _ n _ hn =>
    cases h
    have hrange : (Command.turn n).InRange := (turnNumber?_eq_some_iff.1 hn).2
    exact ⟨by simpa [Reading.script, Reading.some] using hrange, List.forall_mem_nil _⟩
  | badMarker | tooLong => cases h
  | noLinks =>
    cases h
    exact ⟨List.forall_mem_nil _, List.forall_mem_nil _⟩
  | spelled hmarker hrange hchars =>
    cases h
    exact ⟨by simpa [Reading.script, Reading.some] using hrange, List.forall_mem_nil _⟩
  | remarked hne hrange htext =>
    cases h
    refine ⟨fun c hc => hrange c (Option.mem_toList.1 hc), fun w hw => ?_⟩
    obtain ⟨remark, hmem, rfl⟩ := List.mem_map.1 hw
    simpa using htext remark hmem

end BattlePilot.Script
