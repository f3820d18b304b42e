import BattlePilot.Script.Chain
import BattlePilot.Script.CommandText

/-! Splitting into links. Links that meet no dot outside parentheses, and that close what they open,
are found again when they are joined by dots. -/

namespace BattlePilot.Script

/-- How deep in parentheses a text ends, if it meets no dot outside them; it begins `depth` deep. -/
def depthThrough? (depth : Nat) : List Char → Option Nat
  | [] => some depth
  | c :: rest =>
    if c = '.' ∧ depth = 0 then none else depthThrough? (depthAfter depth c) rest

/-- Whether a character neither divides a chain nor opens or closes anything in it. -/
def isBare (c : Char) : Bool :=
  c != '.' && c != '(' && c != ')'

/-- A text that can stand between dots. -/
structure IsLink (cs : List Char) : Prop where
  ne_nil : cs ≠ []
  closed : depthThrough? 0 cs = some 0

theorem depthThrough?_append {depth middle : Nat} {cs : List Char}
    (h : depthThrough? depth cs = some middle) (rest : List Char) :
    depthThrough? depth (cs ++ rest) = depthThrough? middle rest := by
  induction cs generalizing depth with
  | nil =>
    cases h
    rfl
  | cons c cs ih =>
    rw [depthThrough?] at h
    rw [List.cons_append, depthThrough?]
    split at h
    · cases h
    · next hdot => rw [if_neg hdot, ih h]

/-- Bare characters leave the depth as it is. -/
theorem depthThrough?_of_bare {cs : List Char} (h : cs.all isBare = true) (depth : Nat) :
    depthThrough? depth cs = some depth := by
  induction cs with
  | nil => rfl
  | cons c cs ih =>
    simp only [List.all_cons, isBare, Bool.and_eq_true, bne_iff_ne] at h
    obtain ⟨⟨⟨hdot, hopen⟩, hclose⟩, h⟩ := h
    rw [depthThrough?, if_neg (fun hc => hdot hc.1), depthAfter, if_neg hopen, if_neg hclose, ih h]

/-- Inside parentheses dots are like other characters. -/
theorem depthThrough?_of_inside {cs : List Char} (h : ∀ c ∈ cs, c ≠ '(' ∧ c ≠ ')') (depth : Nat) :
    depthThrough? (depth + 1) cs = some (depth + 1) := by
  induction cs with
  | nil => rfl
  | cons c cs ih =>
    obtain ⟨⟨hopen, hclose⟩, h⟩ := List.forall_mem_cons.1 h
    rw [depthThrough?, if_neg (fun hc => Nat.noConfusion hc.2), depthAfter, if_neg hopen,
      if_neg hclose, ih h]

theorem isLink_of_bare {cs : List Char} (hne : cs ≠ []) (h : cs.all isBare = true) : IsLink cs :=
  ⟨hne, depthThrough?_of_bare h 0⟩

theorem isLink_callText {name : String} {argument : List Char}
    (hname : name.toList.all isBare = true) (hargument : ∀ c ∈ argument, c ≠ '(' ∧ c ≠ ')') :
    IsLink (callText name argument) := by
  refine ⟨by simp [callText], ?_⟩
  have hinside := depthThrough?_of_inside hargument 0
  have hopen : depthThrough? 0 ('(' :: argument) = some 1 := by
    rw [depthThrough?, if_neg nofun]
    exact hinside
  rw [callText, List.append_assoc, depthThrough?_append (depthThrough?_of_bare hname 0),
    depthThrough?_append hopen]
  rfl

/-- What comes before the next dot outside parentheses belongs to the first stretch. -/
theorem segmentsFrom_append {depth middle : Nat} {cs rest segment : List Char}
    {more : List (List Char)} (h : depthThrough? depth cs = some middle)
    (hrest : segmentsFrom middle rest = segment :: more) :
    segmentsFrom depth (cs ++ rest) = (cs ++ segment) :: more := by
  induction cs generalizing depth with
  | nil =>
    cases h
    exact hrest
  | cons c cs ih =>
    rw [depthThrough?] at h
    split at h
    · cases h
    · next hdot => rw [List.cons_append, segmentsFrom, if_neg hdot, ih h, List.cons_append]

theorem segmentsFrom_dot (rest : List Char) :
    segmentsFrom 0 ('.' :: rest) = [] :: segmentsFrom 0 rest :=
  if_pos ⟨rfl, rfl⟩

theorem segmentsFrom_links {head : List Char} {links : List (List Char)}
    (hhead : depthThrough? 0 head = some 0) (hlinks : ∀ link ∈ links, IsLink link) :
    segmentsFrom 0 (head ++ Command.links links) = head :: links := by
  induction links generalizing head with
  | nil =>
    have hnil : segmentsFrom 0 (Command.links []) = [[]] := rfl
    rw [segmentsFrom_append hhead hnil, List.append_nil]
  | cons link links ih =>
    obtain ⟨hlink, hlinks⟩ := List.forall_mem_cons.1 hlinks
    have hrest : segmentsFrom 0 (Command.links (link :: links)) = [] :: link :: links := by
      rw [Command.links, List.flatMap_cons, List.cons_append, segmentsFrom_dot]
      exact congrArg _ (ih hlink.closed hlinks)
    rw [segmentsFrom_append hhead hrest, List.append_nil]

/-- A chain of links is split into its links. -/
theorem splitChain_links {head : List Char} {links : List (List Char)} (hhead : IsLink head)
    (hlinks : ∀ link ∈ links, IsLink link) :
    splitChain (head ++ Command.links links) = head :: links := by
  rw [splitChain, segmentsFrom_links hhead.closed hlinks, List.filter_eq_self]
  intro link hmem
  have hne : link ≠ [] := by
    rcases List.mem_cons.1 hmem with rfl | hmem
    · exact hhead.ne_nil
    · exact (hlinks link hmem).ne_nil
  simp [hne]

/-- A chain that begins with bare characters has them in its first link. -/
theorem splitChain_append {cs : List Char} (hne : cs ≠ []) (h : cs.all isBare = true)
    (rest : List Char) :
    ∃ segment more, splitChain (cs ++ rest) = (cs ++ segment) :: more := by
  obtain ⟨segment, more, hrest⟩ := List.exists_cons_of_ne_nil (segmentsFrom_ne_nil 0 rest)
  refine ⟨segment, more.filter (!·.isEmpty), ?_⟩
  rw [splitChain, segmentsFrom_append (depthThrough?_of_bare h 0) hrest,
    List.filter_cons_of_pos (by simp [hne])]

theorem intercalate_eq_links (head : List Char) (links : List (List Char)) :
    ['.'].intercalate (head :: links) = head ++ Command.links links := by
  induction links generalizing head with
  | nil => simp [Command.links]
  | cons link links ih =>
    rw [List.intercalate_cons_cons, ih]
    simp [Command.links]

theorem subset_of_mem_segmentsFrom {depth : Nat} {cs segment : List Char}
    (h : segment ∈ segmentsFrom depth cs) : segment ⊆ cs := by
  induction cs generalizing depth segment with
  | nil =>
    rw [List.mem_singleton.1 h]
    exact List.Subset.refl _
  | cons c rest ih =>
    rw [segmentsFrom] at h
    split at h
    · rcases List.mem_cons.1 h with rfl | h
      · exact List.nil_subset _
      · exact List.subset_cons_of_subset _ (ih h)
    · split at h
      · next hnil => exact absurd hnil (segmentsFrom_ne_nil _ _)
      · next first more hsegments =>
        rcases List.mem_cons.1 h with rfl | h
        · exact List.cons_subset_cons _ (ih (hsegments ▸ List.mem_cons_self))
        · exact List.subset_cons_of_subset _ (ih (hsegments ▸ List.mem_cons_of_mem _ h))

/-- A link has no characters but those of its chain. -/
theorem subset_of_mem_splitChain {cs link : List Char} (h : link ∈ splitChain cs) : link ⊆ cs :=
  subset_of_mem_segmentsFrom (List.mem_filter.1 h).1

end BattlePilot.Script
