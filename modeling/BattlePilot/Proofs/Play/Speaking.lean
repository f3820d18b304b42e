import BattlePilot.Proofs.Play.Finding
import BattlePilot.Proofs.Play.Since

/-! What is told of a chain: the clicks, the prompts that bear on targets, and the events, in one
sequence. A course speaks some words if what it tells is one of them, or the beginning of one where
an overflow cuts it short. -/

namespace BattlePilot

inductive ChainNote where
  | clicked (label : String)
  /-- The prompt that asks for a target is seen. -/
  | prompted
  /-- Where to pick the target is looked for. -/
  | sought
  | noted (e : Event)
  deriving DecidableEq, Repr

/-- What an operation and its answer tell of a chain. -/
def ScreenOp.chainNote? (op : ScreenOp) (answer : ScreenAnswer) : Option ChainNote :=
  if op = .confirm "use_skill" then if answer = .truth true then some .prompted else none
  else if op = .find "select_a_character" then some .sought
  else op.clicked?.map .clicked

def Entry.chainNote? : Entry → Option ChainNote
  | call _ op answer => op.chainNote? answer
  | event e => some (.noted e)

namespace ChainNote

/-- A click that is made or not. -/
def clickIf (clicked : Bool) (label : String) : List ChainNote :=
  if clicked then [.clicked label] else []

end ChainNote

namespace Journal

/-- What is told of a chain, the oldest first. -/
def chainNotes (j : Journal) : List ChainNote := j.reverse.filterMap Entry.chainNote?

@[simp] theorem chainNotes_event (e : Event) (j : Journal) :
    chainNotes (.event e :: j) = chainNotes j ++ [.noted e] := by
  simp [chainNotes, Entry.chainNote?]

@[simp] theorem chainNotes_call (clock : Span) (op : ScreenOp) (answer : ScreenAnswer)
    (j : Journal) : chainNotes (.call clock op answer :: j) =
      chainNotes j ++ (op.chainNote? answer).toList := by
  cases h : op.chainNote? answer <;> simp [chainNotes, Entry.chainNote?, h]

@[simp] theorem chainNotes_append (new j : Journal) :
    chainNotes (new ++ j) = chainNotes j ++ chainNotes new := by
  simp [chainNotes]

end Journal

/-- What tells nothing of a chain. -/
def ScreenOp.Silent (op : ScreenOp) : Prop := ∀ answer, op.chainNote? answer = none

theorem ScreenOp.silent_sleep (d : Span) : (sleep d).Silent := fun _ => rfl

theorem ScreenOp.silent_confirm {name : String} (h : name ≠ "use_skill") :
    (confirm name).Silent := by
  intro answer
  simp [chainNote?, h, clicked?]

theorem ScreenOp.silent_find {name : String} (h : name ≠ "select_a_character") :
    (find name).Silent := by
  intro answer
  simp [chainNote?, h, clicked?]

namespace Battle

variable {b₀ b b' : Battle} {told : List ChainNote}

/-- This is told since `b₀`, and what the pilot knows is as it was. -/
def Spoken (b₀ : Battle) (told : List ChainNote) (b : Battle) : Prop :=
  ∃ new, b₀.Since new b ∧ new.chainNotes = told ∧ b.state = b₀.state

theorem Spoken.refl (b : Battle) : b.Spoken [] b := ⟨[], .refl b, rfl, rfl⟩

theorem Spoken.answered (h : b₀.Spoken told b) (hs : b.screen.perform? op = some (answer, s)) :
    b₀.Spoken (told ++ (op.chainNote? answer).toList) (b.answered op answer s) := by
  obtain ⟨new, hnew, rfl, hstate⟩ := h
  exact ⟨_, hnew.answered hs, Journal.chainNotes_call .., hstate⟩

theorem Spoken.noted (h : b₀.Spoken told b) (e : Event) :
    b₀.Spoken (told ++ [.noted e]) (b.noted e) := by
  obtain ⟨new, hnew, rfl, hstate⟩ := h
  exact ⟨_, hnew.noted e, Journal.chainNotes_event .., hstate⟩

theorem Spoken.silently (h : b₀.Spoken told b) (ha : Asks ScreenOp.Silent b b') :
    b₀.Spoken told b' := by
  induction ha with
  | refl => exact h
  | tail _ ha ih =>
    cases ha with
    | mk hop hs => simpa [hop _] using ih.answered hs

end Battle

namespace Play
open Battle

variable {b₀ : Battle} {W : α → List ChainNote → Prop}

/-- What a course tells is a word for its value; cut short by an overflow, it has told the beginning
of one. -/
structure Speaks (b₀ : Battle) (W : α → List ChainNote → Prop) (m : Play α) : Prop where
  /-- There is a word that it may tell, so that the beginning of a word can always be completed. -/
  exists_word : ∃ a word, W a word
  run : ∀ told, Triple (b₀.Spoken told) m (fun a b => ∃ word, W a word ∧ b₀.Spoken (told ++ word) b)
    fun halt b => halt = .overflow ∧
      ∃ a word part, W a word ∧ part <+: word ∧ b₀.Spoken (told ++ part) b

/-- Nothing is told, whatever the value. -/
abbrev Silently (b₀ : Battle) (m : Play α) : Prop := Speaks b₀ (fun _ word => word = []) m

namespace Speaks

theorem pure {a : α} (h : W a []) : Speaks b₀ W (Pure.pure a : Play α) where
  exists_word := ⟨a, [], h⟩
  run told := .pure fun _ hb => ⟨[], h, (List.append_nil told).symm ▸ hb⟩

theorem overflow [Nonempty α] : Silently b₀ (throw .overflow : Play α) where
  exists_word := ⟨Classical.choice ‹_›, [], rfl⟩
  run told := .halt fun _ hb => ⟨rfl, Classical.choice ‹_›, [], [], rfl, List.nil_prefix,
    (List.append_nil told).symm ▸ hb⟩

theorem mono {W' : α → List ChainNote → Prop} {m : Play α} (hm : Speaks b₀ W m)
    (h : ∀ a word, W a word → W' a word) : Speaks b₀ W' m where
  exists_word := hm.exists_word.imp fun a hword => hword.imp (h a)
  run told := by
    apply (hm.run told).conseq (fun _ h => h)
    · exact fun _ _ ⟨word, hword, hb⟩ => ⟨word, h _ _ hword, hb⟩
    · exact fun _ _ ⟨ho, a, word, part, hword, hpart⟩ => ⟨ho, a, word, part, h _ _ hword, hpart⟩

/-- A word is followed by another one. -/
theorem bind {U : α → List ChainNote → Prop} {V : α → β → List ChainNote → Prop}
    {W : β → List ChainNote → Prop} {m : Play α} {f : α → Play β}
    (hm : Speaks b₀ U m) (hf : ∀ a, Speaks b₀ (V a) (f a))
    (hW : ∀ a word c word', U a word → V a c word' → W c (word ++ word')) :
    Speaks b₀ W (m >>= f) where
  exists_word := by
    obtain ⟨a, word, hword⟩ := hm.exists_word
    obtain ⟨c, word', hword'⟩ := (hf a).exists_word
    exact ⟨c, _, hW a word c word' hword hword'⟩
  run told := by
    apply Triple.bind ((hm.run told).mono_halt ?_)
    · intro a
      refine .of_eq fun b ⟨word, hword, hb⟩ => ?_
      have hf : Triple (· = b) (f a) _ _ := ((hf a).run (told ++ word)).mono_start fun _ h => h ▸ hb
      apply hf.conseq (fun _ h => h)
      · rintro c b' ⟨word', hword', hb'⟩
        exact ⟨_, hW a word c word' hword hword', List.append_assoc .. ▸ hb'⟩
      · rintro halt b' ⟨ho, c, word', part, hword', hpart, hb'⟩
        exact ⟨ho, c, _, _, hW a word c word' hword hword',
          (List.prefix_append_right_inj word).2 hpart, List.append_assoc .. ▸ hb'⟩
    · -- what is cut short is completed by any word that might have followed
      rintro halt b ⟨ho, a, word, part, hword, hpart, hb⟩
      obtain ⟨c, word', hword'⟩ := (hf a).exists_word
      exact ⟨ho, c, _, part, hW a word c word' hword hword',
        hpart.trans (List.prefix_append ..), hb⟩

/-- A value that does not depend on what was done. -/
theorem yields {W : β → List ChainNote → Prop} {m : Play α} {c : β}
    (hm : Speaks b₀ (fun _ => W c) m) : Speaks b₀ W (m >>= fun _ => Pure.pure c) := by
  apply bind hm (V := fun _ c' word => c' = c ∧ word = [])
  · exact fun _ => pure ⟨rfl, rfl⟩
  · rintro _ word _ _ hword ⟨rfl, rfl⟩
    rwa [List.append_nil]

theorem discard {W : List ChainNote → Prop} {m : Play α} (hm : Speaks b₀ (fun _ => W) m) :
    Speaks b₀ (fun _ => W) (Functor.discard m) :=
  yields (W := fun _ => W) hm

/-- What is silent at first tells what it tells then. -/
theorem silently_bind {W : β → List ChainNote → Prop} {m : Play α} {f : α → Play β}
    (hm : Silently b₀ m) (hf : ∀ a, Speaks b₀ W (f a)) : Speaks b₀ W (m >>= f) := by
  apply bind hm hf
  rintro a _ c word rfl hword
  exact hword

/-- Two words in a row, whatever the values. -/
theorem andThen {U V : List ChainNote → Prop} {m : Play α} {f : α → Play β}
    (hm : Speaks b₀ (fun _ => U) m) (hf : ∀ a, Speaks b₀ (fun _ => V) (f a)) :
    Speaks b₀ (fun _ word => ∃ u v, U u ∧ V v ∧ word = u ++ v) (m >>= f) :=
  bind hm hf fun _ u _ v hu hv => ⟨u, v, hu, hv, rfl⟩

theorem get_bind {f : Battle → Play β} {W : β → List ChainNote → Prop}
    (hf : ∀ b, Speaks b₀ W (f b)) : Speaks b₀ W (get >>= f) where
  exists_word := (hf b₀).exists_word
  run told := .get_bind fun b hb => ((hf b).run told).mono_start fun _ h => h ▸ hb

theorem asks [Nonempty α] {m : Play α} (hm : Within (Ask ScreenOp.Silent) m) :
    Silently b₀ m where
  exists_word := ⟨Classical.choice ‹_›, [], rfl⟩
  run told := .of_eq fun b hb => by
    rw [← List.append_nil told] at hb
    apply (hm.entire b).conseq (fun _ h => h)
    · exact fun a b' ha => ⟨[], rfl, hb.silently ha⟩
    · exact fun halt b' ⟨ho, ha⟩ =>
        ⟨ho, Classical.choice ‹_›, [], [], rfl, List.nil_prefix, hb.silently ha⟩

end Speaks

/-! ### Asking the screen -/

variable (cfg : Settings)

/-- What the screen is asked is told with the answer. -/
theorem perform.speaks (op : ScreenOp) :
    Speaks b₀ (fun answer word => word = (op.chainNote? answer).toList) (perform op) where
  exists_word := ⟨.nothing, _, rfl⟩
  run told := .of_eq fun b hb => by
    apply (perform.spec op b).conseq (fun _ h => h)
    · rintro answer _ ⟨s, hs, rfl⟩
      exact ⟨_, rfl, hb.answered hs⟩
    · rintro _ _ ⟨ho, rfl⟩
      exact ⟨ho, .nothing, _, [], rfl, List.nil_prefix, (List.append_nil told).symm ▸ hb⟩

theorem wait.speaks (d : Span) : Silently b₀ (wait d) :=
  .asks (wait.asks (ScreenOp.silent_sleep d))

theorem sleep.speaks (d : Span) : Silently b₀ (sleep d) :=
  .asks (sleep.asks (ScreenOp.silent_sleep d))

theorem click.speaks (label : String) (position : Point) :
    Speaks b₀ (fun _ word => word = [.clicked label]) (send (.click label position)) :=
  .discard (perform.speaks (.input (.click label position)))

theorem doubleClick.speaks (label : String) (position : Point) :
    Speaks b₀ (fun _ word => word = [.clicked label]) (send (.doubleClick label position)) :=
  .discard (perform.speaks (.input (.doubleClick label position)))

theorem confirm.silent {name : String} (h : name ≠ "use_skill") (tries : Nat) :
    Silently b₀ (confirm cfg name tries) :=
  .asks (confirm.asks cfg (ScreenOp.silent_confirm h) ScreenOp.silent_sleep _)

theorem find.silent {name : String} (h : name ≠ "select_a_character") (tries : Nat) :
    Silently b₀ (find cfg name tries) :=
  .asks (find.asks cfg (ScreenOp.silent_find h) ScreenOp.silent_sleep _)

theorem beside.speaks (position : Point) (offset : Offset) :
    Silently b₀ (beside position offset) := by
  unfold beside
  split
  · exact .pure rfl
  · exact @Speaks.overflow _ _ ⟨position⟩

theorem findAndClick.speaks {name : String} (h : name ≠ "select_a_character") (tries : Nat) :
    Speaks b₀ (fun clicked word => word = ChainNote.clickIf clicked name)
      (findAndClick cfg name tries) := by
  apply Speaks.silently_bind (find.silent cfg h tries)
  intro found
  cases found with
  | some position => exact .yields (click.speaks name position)
  | none => exact .pure rfl

theorem press.speaks {name : String} (h : name ≠ "select_a_character") :
    Speaks b₀ (fun _ word => ∃ clicked, word = ChainNote.clickIf clicked name) (press cfg name) :=
  .discard ((findAndClick.speaks cfg h _).mono fun clicked _ hword => ⟨clicked, hword⟩)

theorem setback.speaks (s : Setback) :
    Speaks b₀ (fun _ word => word = [.noted (.recovered b₀.state.currentTurn s)])
      (setback s) where
  exists_word := ⟨(), _, rfl⟩
  run told := .turn_bind fun b hb => .modify <| by
    rintro b rfl
    have hturn : b₀.state.currentTurn = b.state.currentTurn := by
      obtain ⟨_, _, _, hstate⟩ := hb
      rw [hstate]
    rw [hturn]
    exact ⟨_, rfl, hb.noted _⟩

theorem clickSlot.speaks (kind : String) (slot : UInt8) (offset : Offset) :
    Speaks b₀ (fun _ word => word = [.clicked (slotLabel kind slot)])
      (clickSlot kind slot offset) :=
  .get_bind fun _ => .silently_bind (beside.speaks _ _) fun _ => click.speaks _ _

theorem doubleClickSlot.speaks (kind : String) (slot : UInt8) (offset : Offset) :
    Speaks b₀ (fun _ word => word = [.clicked (slotLabel kind slot)])
      (doubleClickSlot kind slot offset) :=
  .get_bind fun _ => .silently_bind (beside.speaks _ _) fun _ => doubleClick.speaks _ _

/-- The prompt for a target is told if it is seen. -/
theorem confirm.prompted (tries : Nat) :
    Speaks b₀ (fun seen word => word = if seen then [.prompted] else [])
      (confirm cfg "use_skill" tries) := by
  have sees : Speaks b₀ (fun seen word => word = if seen then [.prompted] else [])
      (sees "use_skill") := by
    refine ⟨⟨false, _, rfl⟩, fun told => ⟨fun b hb => ?_⟩⟩
    have hs : b.screen.perform? (.confirm "use_skill") =
        some (.truth (b.screen.confirm "use_skill").1, (b.screen.confirm "use_skill").2) := rfl
    have hanswered := hb.answered hs
    rw [sees_run]
    cases hseen : (b.screen.confirm "use_skill").1 with
    | true | false =>
      rw [hseen] at hanswered
      exact ⟨_, rfl, hanswered⟩
  rw [confirm]
  induction tries - 1 with
  | zero => exact sees
  | succ more ih =>
    apply Speaks.bind sees (V := fun seen seen' word =>
      if seen then seen' = true ∧ word = [] else word = if seen' then [.prompted] else [])
    · intro seen
      cases seen with
      | true => exact .pure ⟨rfl, rfl⟩
      | false => exact .silently_bind (sleep.speaks _) fun _ => ih
    · rintro seen _ seen' word rfl hword
      cases seen with
      | true =>
        obtain ⟨rfl, rfl⟩ := hword
        rfl
      | false => exact hword

/-- Each look for where to pick the target is told, and there is one at least. -/
theorem find.sought (tries : Nat) :
    Speaks b₀ (fun _ word => ∃ looks, 0 < looks ∧ word = List.replicate looks .sought)
      (find cfg "select_a_character" tries) := by
  have look : Speaks b₀ (fun _ word => word = [.sought]) (look "select_a_character") := by
    refine ⟨⟨none, _, rfl⟩, fun told => ⟨fun b hb => ?_⟩⟩
    have hs : b.screen.perform? (.find "select_a_character") =
        some (.position (b.screen.find "select_a_character").1,
          (b.screen.find "select_a_character").2) := rfl
    rw [look_run]
    exact ⟨_, rfl, hb.answered hs⟩
  rw [find]
  induction tries - 1 with
  | zero => exact look.mono fun _ word hword => ⟨1, Nat.one_pos, hword⟩
  | succ more ih =>
    apply Speaks.bind look (V := fun _ _ word => ∃ looks, word = List.replicate looks .sought)
    · intro found
      cases found with
      | some position => exact .pure ⟨0, rfl⟩
      | none =>
        refine Speaks.silently_bind (sleep.speaks _) fun _ => ih.mono ?_
        rintro _ _ ⟨looks, -, hword⟩
        exact ⟨looks, hword⟩
    · rintro _ _ _ _ rfl ⟨looks, rfl⟩
      exact ⟨looks + 1, Nat.succ_pos _, rfl⟩

end Play
end BattlePilot
