import BattlePilot.Proofs.Script.Canonical
import BattlePilot.Proofs.Script.Lines
import Mathlib.Logic.Relation

/-! Lines that are written anew. Blanks, the case of letters and comments are gone in the normal
form; all that matters of them is that two slashes stay together, since they begin a comment. -/

namespace BattlePilot.Script

/-! ### Normal forms, character by character -/

/-- Whether a comment begins at `c`, where `rest` follows. -/
def OpensComment (c : Char) (rest : List Char) : Prop :=
  c = '#' ∨ c = '/' ∧ rest.head? = some '/'

/-- What the normal form keeps of a character. -/
def kept (c : Char) : List Char := if isBlank c then [] else Lowercase.ofChar c

section
variable {c : Char} {rest : List Char}

theorem normalForm_of_opensComment (h : OpensComment c rest) : normalForm (c :: rest) = [] := by
  rcases h with rfl | ⟨rfl, hhead⟩
  · rfl
  · obtain ⟨more, rfl⟩ := List.head?_eq_some_iff.1 hhead
    rfl

theorem normalForm_of_not_opensComment (h : ¬ OpensComment c rest) :
    normalForm (c :: rest) = kept c ++ normalForm rest := by
  have hbefore : beforeComment (c :: rest) = c :: beforeComment rest := by
    rw [beforeComment]
    · exact fun hc => h (.inl hc)
    · exact fun more hc hrest => h (.inr ⟨hc, hrest ▸ rfl⟩)
  rw [normalForm, hbefore, kept, List.filter_cons]
  cases isBlank c <;> rfl

end

/-- Texts with the same normal form have the same one after some text, as long as neither of them
makes a comment of a slash at the end of it. -/
theorem normalForm_append_congr {before after after' : List Char}
    (h : normalForm after = normalForm after')
    (hslash : before.getLast? = some '/' → (after.head? = some '/' ↔ after'.head? = some '/')) :
    normalForm (before ++ after) = normalForm (before ++ after') := by
  induction before with
  | nil => exact h
  | cons c before ih =>
    have hrest : normalForm (before ++ after) = normalForm (before ++ after') := by
      refine ih fun hlast => hslash ?_
      cases before with
      | nil => cases hlast
      | cons d before => rw [List.getLast?_cons_cons, hlast]
    have hopens : OpensComment c (before ++ after) ↔ OpensComment c (before ++ after') := by
      cases before with
      | nil => exact or_congr_right (and_congr_right fun hc => hslash (hc ▸ rfl))
      | cons d before => exact Iff.rfl
    rw [List.cons_append, List.cons_append]
    by_cases hc : OpensComment c (before ++ after)
    · rw [normalForm_of_opensComment hc, normalForm_of_opensComment (hopens.1 hc)]
    · rw [normalForm_of_not_opensComment hc, normalForm_of_not_opensComment (mt hopens.2 hc), hrest]

/-! ### Writing anew -/

/-- A line written anew in one place. -/
inductive Restyled : List Char → List Char → Prop where
  /-- A blank is put in, but not between two slashes. -/
  | blank (before after : List Char) (hc : isBlank c = true)
    (hs : ¬ (before.getLast? = some '/' ∧ after.head? = some '/')) :
    Restyled (before ++ after) (before ++ c :: after)
  /-- An ASCII letter changes its case. -/
  | letter (before after : List Char) (hc : c.isAlpha = true)
    (hc' : c' = c.toLower ∨ c' = c.toUpper) :
    Restyled (before ++ c :: after) (before ++ c' :: after)
  /-- A comment is put at the end. -/
  | comment (text : List Char) : Restyled raw (raw ++ '#' :: text)

theorem toNat_lt_of_isAlpha {c : Char} (hc : c.isAlpha = true) : c.toNat < 128 := by
  have hcase : c.isUpper = true ∨ c.isLower = true := (Bool.or_eq_true ..).mp hc
  rcases hcase with hupper | hlower
  · have hle : c.val ≤ 'Z'.val := (of_decide_eq_true hupper).2
    exact Nat.lt_of_le_of_lt (UInt32.le_iff_toNat_le.1 hle) (by decide)
  · have hle : c.val ≤ 'z'.val := of_decide_eq_true ((Bool.and_eq_true ..).mp hlower).2
    exact Nat.lt_of_le_of_lt (UInt32.le_iff_toNat_le.1 hle) (by decide)

/-- Whether the normal form keeps `c'` as it keeps `c`, and no comment begins with it. -/
def KeptAs (c c' : Char) : Prop := kept c' = kept c ∧ c' ≠ '#' ∧ c' ≠ '/'

instance (c c' : Char) : Decidable (KeptAs c c') := inferInstanceAs (Decidable (_ ∧ _ ∧ _))

/-- The normal form knows no case, and takes no letter for something else. -/
theorem keptAs_recased {c c' : Char} (hc : c.isAlpha = true)
    (hc' : c' = c ∨ c' = c.toLower ∨ c' = c.toUpper) : KeptAs c c' := by
  have hall : ∀ k < 128, (Char.ofNat k).isAlpha = true → KeptAs (Char.ofNat k) (Char.ofNat k) ∧
      KeptAs (Char.ofNat k) (Char.ofNat k).toLower ∧
      KeptAs (Char.ofNat k) (Char.ofNat k).toUpper := by
    decide +kernel
  -- The letters are the same again as the characters with their numbers.
  obtain ⟨hsame, hlower, hupper⟩ := Char.ofNat_toNat c ▸ hall c.toNat (toNat_lt_of_isAlpha hc)
    (by rwa [Char.ofNat_toNat])
  rcases hc' with rfl | rfl | rfl
  · exact hsame
  · exact hlower
  · exact hupper

theorem Restyled.normalForm_eq (h : Restyled raw raw') : normalForm raw' = normalForm raw := by
  cases h with
  | blank before after hc hs =>
    refine (normalForm_append_congr (normalForm_cons_blank hc after).symm fun hlast => ?_).symm
    refine iff_of_false (fun hhead => hs ⟨hlast, hhead⟩) fun hhead => ?_
    rw [Option.some.inj hhead] at hc
    cases hc
  | letter before after hc hc' =>
    obtain ⟨-, hhash, hslash⟩ := keptAs_recased hc (.inl rfl)
    obtain ⟨hkept, hhash', hslash'⟩ := keptAs_recased hc (.inr hc')
    have closed {d : Char} (hhash : d ≠ '#') (hslash : d ≠ '/') : ¬ OpensComment d after :=
      fun h => h.elim hhash fun h => hslash h.1
    refine normalForm_append_congr ?_ fun _ => ?_
    · rw [normalForm_of_not_opensComment (closed hhash hslash),
        normalForm_of_not_opensComment (closed hhash' hslash'), hkept]
    · exact iff_of_false (fun h => hslash' (Option.some.inj h)) fun h => hslash (Option.some.inj h)
  | comment text =>
    have hempty : normalForm ('#' :: text) = normalForm [] := rfl
    have hcomment := @normalForm_append_congr raw _ _ hempty fun _ =>
      iff_of_false (by intro h; cases h) (by intro h; cases h)
    rwa [List.append_nil] at hcomment

/-- However often a line is written anew, it is read in the same way. -/
theorem style_ignored {raw raw' : String}
    (h : Relation.ReflTransGen Restyled raw.toList raw'.toList) : parse [raw'] = parse [raw] := by
  have hnormal : normalForm raw'.toList = normalForm raw.toList := by
    generalize raw'.toList = restyled at h
    induction h with
    | refl => rfl
    | tail _ hstep ih => exact hstep.normalForm_eq.trans ih
  rw [parse_singleton, parse_singleton, line_eq, line_eq, hnormal]

/-- A line with a stray slash is met with the same warning, wherever its comment begins. -/
theorem style_ignored_slashes :
    parse ["wAit(.5)\t/ //x#y"] = parse ["wait(.5)/ //x"] ∧
      parse ["wait(.5)/ //x"] = .ok ⟨[], [⟨1, "wait(.5)/", .unrecognized⟩]⟩ := by
  have hletter : Restyled "wait(.5)/ //x".toList "wAit(.5)/ //x".toList :=
    .letter "w".toList "it(.5)/ //x".toList (by decide : 'a'.isAlpha) (by decide)
  have hblank : Restyled "wAit(.5)/ //x".toList "wAit(.5)\t/ //x".toList :=
    .blank "wAit(.5)".toList "/ //x".toList (by decide) (by decide)
  have hcomment : Restyled "wAit(.5)\t/ //x".toList "wAit(.5)\t/ //x#y".toList :=
    .comment ['y']
  exact ⟨style_ignored (.tail (.tail (.single hletter) hblank) hcomment), by decide +kernel⟩

end BattlePilot.Script
