import BattlePilot.Screen.Operation

/-! What lasts on a screen. A property that settling, sleeping and hiding keep is kept by every
operation that sends no input, however long the operation waits. -/

namespace BattlePilot.Screen

/-- A property that looking at a screen, sleeping and hiding keep. -/
structure Lasting (P : Screen → Prop) : Prop where
  settle : ∀ {s}, P s → P s.settle
  sleep : ∀ {s s' d}, s.sleep? d = some s' → P s → P s'
  hide : ∀ {s name}, P s → P (s.hide name)

namespace Lasting

variable {P : Screen → Prop} {s s' : Screen}

theorem vanishFrom {steps : Nat} (hP : Lasting P) (hs : P s)
    (h : vanishFrom? name deadline steps s = some (gone, s')) : P s' := by
  induction steps generalizing s with
  | zero =>
    cases h
    exact hP.settle hs
  | succ steps ih =>
    simp only [vanishFrom?] at h
    split at h
    · obtain ⟨s₁, hslept, h⟩ := Option.bind_eq_some_iff.1 h
      exact ih (hP.sleep hslept (hP.settle hs)) h
    · cases h
      exact hP.settle hs

theorem performed {op : ScreenOp} (hP : Lasting P) (hs : P s)
    (hreceive : ∀ i, op = .input i → s.receive? i = some s' → P s')
    (h : s.perform? op = some (answer, s')) : P s' := by
  cases op with
  | find | confirm | findAll =>
    cases h
    exact hP.settle hs
  | hide =>
    cases h
    exact hP.hide hs
  | waitVanish name timeout =>
    obtain ⟨⟨gone, s₁⟩, hwait, h⟩ := Option.map_eq_some_iff.1 h
    cases h
    obtain ⟨deadline, -, hvanish⟩ := Option.bind_eq_some_iff.1 hwait
    exact hP.vanishFrom hs hvanish
  | input i =>
    obtain ⟨s₁, hreceived, h⟩ := Option.map_eq_some_iff.1 h
    cases h
    exact hreceive i rfl hreceived
  | sleep d =>
    obtain ⟨s₁, hslept, h⟩ := Option.map_eq_some_iff.1 h
    cases h
    exact hP.sleep hslept hs

end Lasting

/-! ### Positions -/

theorem lasting_positions (places : List (String × Point)) : Lasting (·.positions = places) where
  settle h := h
  sleep hslept h := by
    obtain ⟨now, -, rfl⟩ := Option.map_eq_some_iff.1 hslept
    exact h
  hide h := h

theorem receive?_positions {s s' : Screen} (h : s.receive? input = some s') :
    s'.positions = s.positions := by
  cases input with
  | click | doubleClick =>
    obtain ⟨-, h⟩ := Option.ite_none_right_eq_some.1 h
    cases h
    rfl
  | scroll | home =>
    cases h
    rfl

/-- Elements never move. -/
theorem perform?_positions {s s' : Screen} {op : ScreenOp}
    (h : s.perform? op = some (answer, s')) : s'.positions = s.positions :=
  (lasting_positions s.positions).performed rfl (fun _ _ => receive?_positions) h

/-- An element is found where it is. -/
theorem eq_position_of_find {s s' : Screen}
    (h : s.perform? (.find name) = some (.position (some p), s')) : p = s.position name := by
  have hfound : (s.find name).1 = some p :=
    ScreenAnswer.position.inj (Prod.mk.inj (Option.some.inj h)).1
  obtain ⟨-, hp⟩ := Option.ite_none_right_eq_some.1 hfound
  exact (Option.some.inj hp).symm

end BattlePilot.Screen
