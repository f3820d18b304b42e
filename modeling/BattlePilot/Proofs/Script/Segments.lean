import BattlePilot.Proofs.Script.Splitting

/-! Segments of a text. A dot divides a text where it stands outside parentheses, a closing one
without partner being ignored. The links of a chain are its segments between such dots: all that are
not empty and cannot be made longer, in their order. -/

namespace BattlePilot.Script

/-- How deep in parentheses a text is before its character number `i`; it begins `depth` deep. -/
def depthAt (depth : Nat) (cs : List Char) (i : Nat) : Nat :=
  (cs.take i).foldl depthAfter depth

/-- Character number `i` is a dot outside parentheses. -/
def Divides (depth : Nat) (cs : List Char) (i : Nat) : Prop :=
  cs[i]? = some '.' ∧ depthAt depth cs i = 0

instance : Decidable (Divides depth cs i) := inferInstanceAs (Decidable (_ ∧ _))

/-- The characters from number `i` to before number `j` are one at least, and none of them divides
the text. -/
structure Undivided (cs : List Char) (i j : Nat) : Prop where
  lt : i < j
  within : j ≤ cs.length
  whole : ∀ k, i ≤ k → k < j → ¬ Divides 0 cs k

/-- An undivided part of a text that is not within a longer one. -/
structure IsSegment (cs : List Char) (i j : Nat) : Prop extends Undivided cs i j where
  longest : ∀ i' j', i' ≤ i → j ≤ j' → Undivided cs i' j' → i' = i ∧ j' = j

/-- The characters from number `i` to before number `j` have a dividing dot, or an end of the text,
on either side, and none between; they may be none at all. -/
structure Stretch (depth : Nat) (cs : List Char) (i j : Nat) : Prop where
  le : i ≤ j
  within : j ≤ cs.length
  opens : ∀ k, i = k + 1 → Divides depth cs k
  closes : j < cs.length → Divides depth cs j
  whole : ∀ k, i ≤ k → k < j → ¬ Divides depth cs k

variable {depth : Nat} {c : Char} {cs : List Char} {i j : Nat}

theorem divides_zero : Divides depth (c :: cs) 0 ↔ c = '.' ∧ depth = 0 := by
  simp [Divides, depthAt]

theorem Undivided.before {k : Nat} (h : Undivided cs (k + 1) j) (hk : ¬ Divides 0 cs k) :
    Undivided cs k j := by
  refine ⟨Nat.lt_of_succ_lt h.lt, h.within, fun k' hle hlt => ?_⟩
  rcases Nat.eq_or_lt_of_le hle with rfl | hk'
  · exact hk
  · exact h.whole k' hk' hlt

theorem Undivided.after (h : Undivided cs i j) (hlt : j < cs.length) (hj : ¬ Divides 0 cs j) :
    Undivided cs i (j + 1) := by
  refine ⟨Nat.lt_succ_of_lt h.lt, hlt, fun k hi hk => ?_⟩
  rcases Nat.lt_succ_iff_lt_or_eq.1 hk with hk | rfl
  · exact h.whole k hi hk
  · exact hj

/-- A part of a text is a segment if it has a dividing dot or an end on either side. -/
theorem isSegment_iff : IsSegment cs i j ↔ i < j ∧ Stretch 0 cs i j := by
  constructor
  · intro h
    refine ⟨h.lt, Nat.le_of_lt h.lt, h.within, fun k hk => ?_, fun hj => ?_, h.whole⟩
    · subst hk
      refine Decidable.byContradiction fun hdivides => ?_
      have hlonger := h.toUndivided.before hdivides
      exact absurd (h.longest k j (Nat.le_succ k) (Nat.le_refl j) hlonger).1 (by omega)
    · refine Decidable.byContradiction fun hdivides => ?_
      have hlonger := h.toUndivided.after hj hdivides
      exact absurd (h.longest i (j + 1) (Nat.le_refl i) (Nat.le_succ j) hlonger).2 (by omega)
  · rintro ⟨hlt, h⟩
    -- a longer part would have the dot in it that stands beside this one
    refine ⟨⟨hlt, h.within, h.whole⟩, fun i' j' hi hj hother => ⟨?_, ?_⟩⟩
    · refine Decidable.byContradiction fun hne => ?_
      obtain ⟨k, rfl⟩ := Nat.exists_eq_add_one_of_ne_zero (n := i) (by omega)
      exact hother.whole k (by omega) (by omega) (h.opens k rfl)
    · refine Decidable.byContradiction fun hne => ?_
      have hwithin := hother.within
      exact hother.whole j (by omega) (by omega) (h.closes (by omega))

/-! ### The stretches of a text with one more character

Which of the other characters divide the text is the same, by definition, before that character is
added: the text without it begins as deep as it is after it. -/

theorem stretch_nil : Stretch depth [] i j ↔ i = 0 ∧ j = 0 := by
  constructor
  · rintro ⟨hle, hwithin, -⟩
    simp only [List.length_nil] at hwithin
    omega
  · rintro ⟨rfl, rfl⟩
    exact ⟨Nat.le_refl 0, Nat.le_refl 0, nofun, nofun, nofun⟩

theorem stretch_zero_zero : Stretch depth (c :: cs) 0 0 ↔ Divides depth (c :: cs) 0 := by
  refine ⟨fun h => h.closes (Nat.succ_pos _), fun h => ?_⟩
  exact ⟨Nat.le_refl 0, Nat.zero_le _, nofun, fun _ => h, nofun⟩

theorem stretch_zero_succ : Stretch depth (c :: cs) 0 (j + 1) ↔
    ¬ Divides depth (c :: cs) 0 ∧ Stretch (depthAfter depth c) cs 0 j := by
  constructor
  · intro h
    exact ⟨h.whole 0 (Nat.le_refl 0) (Nat.succ_pos j), Nat.zero_le j,
      Nat.le_of_succ_le_succ h.within, nofun, fun hj => h.closes (Nat.succ_lt_succ hj),
      fun k _ hk => h.whole (k + 1) (Nat.zero_le _) (Nat.succ_lt_succ hk)⟩
  · rintro ⟨hdivides, h⟩
    refine ⟨Nat.zero_le _, Nat.succ_le_succ h.within, nofun,
      fun hj => h.closes (Nat.lt_of_succ_lt_succ hj), fun k _ hk => ?_⟩
    cases k with
    | zero => exact hdivides
    | succ k => exact h.whole k (Nat.zero_le k) (Nat.lt_of_succ_lt_succ hk)

theorem stretch_succ_succ : Stretch depth (c :: cs) (i + 1) (j + 1) ↔
    (i = 0 → Divides depth (c :: cs) 0) ∧ Stretch (depthAfter depth c) cs i j := by
  constructor
  · intro h
    exact ⟨fun hi => h.opens 0 (congrArg (· + 1) hi), Nat.le_of_succ_le_succ h.le,
      Nat.le_of_succ_le_succ h.within, fun k hk => h.opens (k + 1) (congrArg (· + 1) hk),
      fun hj => h.closes (Nat.succ_lt_succ hj),
      fun k hi hk => h.whole (k + 1) (Nat.succ_le_succ hi) (Nat.succ_lt_succ hk)⟩
  · rintro ⟨hfirst, h⟩
    refine ⟨Nat.succ_le_succ h.le, Nat.succ_le_succ h.within, fun k hk => ?_,
      fun hj => h.closes (Nat.lt_of_succ_lt_succ hj), fun k hi hk => ?_⟩
    · obtain rfl := Nat.succ.inj hk
      cases i with
      | zero => exact hfirst rfl
      | succ k => exact h.opens k rfl
    · cases k with
      | zero => exact absurd hi (Nat.not_succ_le_zero i)
      | succ k => exact h.whole k (Nat.le_of_succ_le_succ hi) (Nat.lt_of_succ_lt_succ hk)

theorem not_stretch_succ_zero : ¬ Stretch depth cs (i + 1) 0 :=
  fun h => absurd h.le (Nat.not_succ_le_zero i)

/-! ### Where the segments are -/

/-- The part of a text at a place: from one number to before another. -/
def partAt (cs : List Char) (place : Nat × Nat) : List Char := cs.extract place.1 place.2

/-- A place after one more character. -/
def shiftPlace (place : Nat × Nat) : Nat × Nat := (place.1 + 1, place.2 + 1)

theorem partAt_shiftPlace (c : Char) (cs : List Char) (place : Nat × Nat) :
    partAt (c :: cs) (shiftPlace place) = partAt cs place := by
  simp [partAt, shiftPlace, List.extract_eq_take_drop]

theorem partAt_zero_succ (c : Char) (cs : List Char) (j : Nat) :
    partAt (c :: cs) (0, j + 1) = c :: partAt cs (0, j) := by
  simp [partAt, List.extract_eq_take_drop]

theorem not_isEmpty_partAt {place : Nat × Nat} (h : place.2 ≤ cs.length) :
    (!(partAt cs place).isEmpty) = decide (place.1 < place.2) := by
  have hlength : (partAt cs place).length = place.2 - place.1 := by
    rw [partAt, List.extract_eq_take_drop, List.length_take, List.length_drop]
    omega
  rw [Bool.eq_iff_iff, Bool.not_eq_true', List.isEmpty_eq_false_iff, ne_eq,
    ← List.length_eq_zero_iff, hlength, decide_eq_true_iff]
  omega

theorem map_partAt_shiftPlace (c : Char) (cs : List Char) (places : List (Nat × Nat)) :
    (places.map shiftPlace).map (partAt (c :: cs)) = places.map (partAt cs) := by
  simp [Function.comp_def, partAt_shiftPlace]

theorem mem_map_shiftPlace {places : List (Nat × Nat)} :
    (i + 1, j + 1) ∈ places.map shiftPlace ↔ (i, j) ∈ places := by
  simp [shiftPlace]

theorem zero_not_mem_map_shiftPlace {places : List (Nat × Nat)} :
    (0, j) ∉ places.map shiftPlace := by
  simp [shiftPlace]

theorem not_mem_map_shiftPlace_zero {places : List (Nat × Nat)} :
    (i, 0) ∉ places.map shiftPlace := by
  simp [shiftPlace]

theorem pairwise_map_shiftPlace {places : List (Nat × Nat)}
    (h : places.Pairwise fun p q => p.2 < q.1) :
    (places.map shiftPlace).Pairwise fun p q => p.2 < q.1 :=
  h.map shiftPlace fun _ _ => Nat.succ_lt_succ

/-- Where the stretches of a text are between the dots that divide it, in order. -/
structure Places (depth : Nat) (cs : List Char) (places : List (Nat × Nat)) : Prop where
  parts : segmentsFrom depth cs = places.map (partAt cs)
  ordered : places.Pairwise fun p q => p.2 < q.1
  mem : ∀ i j, (i, j) ∈ places ↔ Stretch depth cs i j

theorem Places.nil (depth : Nat) : Places depth [] [(0, 0)] where
  parts := rfl
  ordered := List.pairwise_singleton _ _
  mem i j := by simp [stretch_nil]

/-- A dot that divides stands before a text. -/
theorem Places.divided {places : List (Nat × Nat)} (h : Places 0 cs places) :
    Places 0 ('.' :: cs) ((0, 0) :: places.map shiftPlace) where
  parts := by
    rw [segmentsFrom_dot, h.parts, List.map_cons, map_partAt_shiftPlace]
    rfl
  ordered := by
    refine List.pairwise_cons.2 ⟨fun _ hmem => ?_, pairwise_map_shiftPlace h.ordered⟩
    obtain ⟨place, -, rfl⟩ := List.mem_map.1 hmem
    exact Nat.succ_pos _
  mem i j := by
    have hdivides : Divides 0 ('.' :: cs) 0 := divides_zero.2 ⟨rfl, rfl⟩
    rw [List.mem_cons]
    cases i with
    | zero =>
      cases j with
      | zero => simp [stretch_zero_zero, hdivides]
      | succ j => simp [stretch_zero_succ, hdivides, zero_not_mem_map_shiftPlace]
    | succ i =>
      cases j with
      | zero => simp [not_stretch_succ_zero, not_mem_map_shiftPlace_zero]
      | succ j =>
        rw [mem_map_shiftPlace, h.mem, stretch_succ_succ]
        simp [hdivides, depthAfter]

/-- Another character makes the first stretch longer. -/
theorem Places.joined {first : Nat} {more : List (Nat × Nat)}
    (h : Places (depthAfter depth c) cs ((0, first) :: more))
    (hdivides : ¬ Divides depth (c :: cs) 0) :
    Places depth (c :: cs) ((0, first + 1) :: more.map shiftPlace) where
  parts := by
    rw [segmentsFrom, if_neg fun hc => hdivides (divides_zero.2 hc), h.parts, List.map_cons,
      List.map_cons, map_partAt_shiftPlace, partAt_zero_succ]
  ordered := by
    obtain ⟨hfirst, hmore⟩ := List.pairwise_cons.1 h.ordered
    refine List.pairwise_cons.2 ⟨fun _ hmem => ?_, pairwise_map_shiftPlace hmore⟩
    obtain ⟨place, hplace, rfl⟩ := List.mem_map.1 hmem
    exact Nat.succ_lt_succ (hfirst place hplace)
  mem i j := by
    have hlater {j : Nat} : (0, j) ∉ more :=
      fun hmem => Nat.not_lt_zero first ((List.pairwise_cons.1 h.ordered).1 _ hmem)
    rw [List.mem_cons]
    cases i with
    | zero =>
      cases j with
      | zero => simp [stretch_zero_zero, hdivides, zero_not_mem_map_shiftPlace]
      | succ j =>
        rw [stretch_zero_succ, ← h.mem]
        simp [hdivides, zero_not_mem_map_shiftPlace, hlater]
    | succ i =>
      cases j with
      | zero => simp [not_stretch_succ_zero, not_mem_map_shiftPlace_zero]
      | succ j =>
        rw [mem_map_shiftPlace, stretch_succ_succ, ← h.mem, List.mem_cons]
        cases i with
        | zero => simp [hdivides, hlater]
        | succ i => simp

theorem exists_places (depth : Nat) (cs : List Char) :
    ∃ first more, Places depth cs ((0, first) :: more) := by
  induction cs generalizing depth with
  | nil => exact ⟨0, [], .nil depth⟩
  | cons c cs ih =>
    obtain ⟨first, more, h⟩ := ih (depthAfter depth c)
    by_cases hdivides : Divides depth (c :: cs) 0
    · obtain ⟨rfl, rfl⟩ := divides_zero.1 hdivides
      exact ⟨0, _, h.divided⟩
    · exact ⟨first + 1, _, h.joined hdivides⟩

/-- The scan for a depth reads what no dot divides. -/
theorem depthThrough?_eq_some_iff {last : Nat} : depthThrough? depth cs = some last ↔
    (∀ i, ¬ Divides depth cs i) ∧ depthAt depth cs cs.length = last := by
  induction cs generalizing depth with
  | nil => simp [depthThrough?, Divides, depthAt]
  | cons c cs ih =>
    rw [depthThrough?]
    split
    · next hdot => exact iff_of_false (by simp) fun h => h.1 0 (divides_zero.2 hdot)
    · next hdot =>
      rw [ih]
      refine and_congr_left fun _ => ⟨fun h i => ?_, fun h i => h (i + 1)⟩
      cases i with
      | zero => exact fun hdivides => hdot (divides_zero.1 hdivides)
      | succ i => exact h i

theorem isLink_iff : IsLink cs ↔
    cs ≠ [] ∧ (∀ i, ¬ Divides 0 cs i) ∧ depthAt 0 cs cs.length = 0 := by
  rw [← depthThrough?_eq_some_iff]
  exact ⟨fun h => ⟨h.ne_nil, h.closed⟩, fun h => ⟨h.1, h.2⟩⟩

/-- Tokens that are not empty, meet no dividing dot and end outside parentheses are found again
when they are joined by dots. -/
theorem splitChain_intercalate {tokens : List (List Char)}
    (h : ∀ token ∈ tokens, IsLink token) : splitChain (['.'].intercalate tokens) = tokens := by
  cases tokens with
  | nil => rfl
  | cons head links =>
    obtain ⟨hhead, hlinks⟩ := List.forall_mem_cons.1 h
    rw [intercalate_eq_links, splitChain_links hhead hlinks]

/-- The links of a chain are its longest parts that are not empty and that no dot outside
parentheses divides, each of them once and in order. So tokens that no dot divides and that close
what they open are found again when they are joined by dots. -/
theorem splitChain_exact :
    (∀ cs, ∃ places : List (Nat × Nat),
      splitChain cs = places.map (fun p => cs.extract p.1 p.2) ∧
      places.Pairwise (fun p q => p.2 < q.1) ∧ ∀ i j, (i, j) ∈ places ↔ IsSegment cs i j) ∧
    ∀ tokens : List (List Char),
      (∀ t ∈ tokens, t ≠ [] ∧ (∀ i, ¬ Divides 0 t i) ∧ depthAt 0 t t.length = 0) →
        splitChain (['.'].intercalate tokens) = tokens := by
  refine ⟨fun cs => ?_, fun tokens h => splitChain_intercalate fun t ht => isLink_iff.2 (h t ht)⟩
  obtain ⟨first, more, hplaces⟩ := exists_places 0 cs
  generalize (0, first) :: more = places at hplaces
  refine ⟨places.filter fun p => p.1 < p.2, ?_, hplaces.ordered.filter _, fun i j => ?_⟩
  · rw [splitChain, hplaces.parts, List.filter_map]
    congr 1
    refine List.filter_congr fun p hp => ?_
    exact not_isEmpty_partAt ((hplaces.mem p.1 p.2).1 hp).within
  · rw [List.mem_filter, hplaces.mem, isSegment_iff, and_comm, decide_eq_true_iff]

/-- Parentheses without partners: one that closes is ignored, and one that opens keeps the dots
after it in its link. -/
theorem splitChain_exact_unbalanced :
    (∃ places : List (Nat × Nat),
      places.map (fun p => ").é(.ü)).(b.".toList.extract p.1 p.2) =
        [")".toList, "é(.ü))".toList, "(b.".toList] ∧
      places.Pairwise (fun p q => p.2 < q.1) ∧
      ∀ i j, (i, j) ∈ places ↔ IsSegment ").é(.ü)).(b.".toList i j) ∧
    (∀ t ∈ [")é(1.5)".toList, "(.(.).)".toList],
      t ≠ [] ∧ (∀ i, ¬ Divides 0 t i) ∧ depthAt 0 t t.length = 0) ∧
    splitChain (['.'].intercalate [")é(1.5)".toList, "(.(.).)".toList]) =
      [")é(1.5)".toList, "(.(.).)".toList] := by
  have hlinks : ∀ t ∈ [")é(1.5)".toList, "(.(.).)".toList],
      t ≠ [] ∧ (∀ i, ¬ Divides 0 t i) ∧ depthAt 0 t t.length = 0 := by
    rw [List.forall_mem_cons, List.forall_mem_singleton, ← isLink_iff, ← isLink_iff]
    exact ⟨⟨by decide, by decide⟩, by decide, by decide⟩
  obtain ⟨places, hparts, hplaces⟩ := splitChain_exact.1 ").é(.ü)).(b.".toList
  exact ⟨⟨places, hparts ▸ by decide +kernel, hplaces⟩, hlinks, splitChain_exact.2 _ hlinks⟩

end BattlePilot.Script
