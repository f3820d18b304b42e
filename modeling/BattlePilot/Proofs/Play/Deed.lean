import BattlePilot.Battle.Takeover
import BattlePilot.Proofs.Play.Finding

/-! Deeds: what a battle's own state goes through. Each deed has its guard, and whatever is played
is a row of deeds with things done aside between them (`Battle.Moves`). A property that every step
keeps is therefore a property of every course of play. -/

namespace BattlePilot

/-- Labels that may be clicked under some settings: a retreat is not confirmed where a fallen party
does not retreat. -/
def Settings.Clicks (cfg : Settings) (label : String) : Prop :=
  label = "retreat_confirmation" → cfg.retreatsOnWipe = true

theorem Settings.clicks_of_ne {cfg : Settings} (h : label ≠ "retreat_confirmation") :
    cfg.Clicks label := fun h' => absurd h' h

/-- Operations that leave the battle where it is under some settings. -/
abbrev Settings.Light (cfg : Settings) : ScreenOp → Prop := ScreenOp.Light cfg.Clicks

namespace Battle

def inState (b : Battle) (f : BattleState → BattleState) : Battle :=
  { b with state := f b.state }

/-- The battle where no automation is owed any longer. -/
def released (b : Battle) : Battle := b.inState fun s => { s with suspendedAuto := none }

def counted (b : Battle) (command : Command) : Battle :=
  { b.noted (.dispatched b.state.currentTurn command) with dispatched := b.dispatched + 1 }

inductive Deed where
  | turnEnded
  /-- Automation takes over. -/
  | enabled
  /-- Automation gives way to a block. -/
  | suspended
  /-- Suspended automation is owed no longer. -/
  | released
  /-- The battle is left since the party has fallen. -/
  | fallen
  | dispatched (command : Command)
  | attacksOn
  | aimed
  | opened
  | skipped

inductive Does (cfg : Settings) : Deed → Battle → Battle → Prop
  | turnEnded (h : b.state.currentTurn + 1 < Turn.limit) :
    Does cfg .turnEnded b
      ((b.inState fun s => { s with currentTurn := s.currentTurn + 1 }).noted
        (.turnEnded b.state.currentTurn))
  | enabled (hm : b.state.autoMode = .manual) (ha : mode.isActive = true) :
    Does cfg .enabled b
      ((b.inState fun s => { s with autoMode := mode }).noted (.autoModeChanged .manual mode))
  | suspended (hk : b.state.autoMode.kind? = some kind) :
    Does cfg .suspended b
      ((b.inState fun s => { s with autoMode := .manual, suspendedAuto := some kind }).noted
        (.autoModeChanged b.state.autoMode .manual))
  | released : Does cfg .released b (b.inState fun s => { s with suspendedAuto := none })
  | wiped (hs : b.state.retreated = false)
      (hr : response = .retreat ∧ cfg.retreatsOnWipe = true ∨
        response = .leaveRoom ∧ cfg.backsOutOnWipe = false) :
    Does cfg .fallen b
      ((b.inState fun s => { s with retreated := true }).noted
        (.partyWiped b.state.currentTurn response))
  | backedOut (hs : b.state.retreated = false) (hr : cfg.backsOutOnWipe = true)
      (hh : b.screen.perform? (.input .home) = some (answer, s)) :
    Does cfg .fallen b
      (((b.answered (.input .home) answer s).inState fun s => { s with retreated := true }).noted
        (.partyWiped b.state.currentTurn .backOut))
  /-- A command is counted right after the look for an end, unless it is a marker. -/
  | dispatched (hf : Finds cfg none b) (he : command ≠ .exit) (hn : ∀ n, command ≠ .turn n)
      (hg : Play.runsAnywhere command = true ∨
        b.state.autoMode.isActive = false ∧ b.state.inSync = true) :
    Does cfg (.dispatched command) b (b.counted command)
  /-- An exit leaves the battle at once. -/
  | left (hf : Finds cfg none b)
      (hh : b.screen.perform? (.input .home) = some (answer, s)) :
    Does cfg (.dispatched .exit) b
      (((b.counted .exit).answered (.input .home) answer s).inState
        fun s => { s with retreated := true })
  | attacksOn : Does cfg .attacksOn b (b.inState fun s => { s with attacksOn := true })
  | aimed (marker : Nat) : Does cfg .aimed b (b.inState fun s => { s with targetTurn := marker })
  | opened : Does cfg .opened b (b.noted (.turnStarted b.state.currentTurn))
  | skipped (h : marker < b.state.currentTurn) :
    Does cfg .skipped b (b.noted (.markerSkipped marker b.state.currentTurn))

theorem Does.currentTurn (h : Does cfg d b b') (hd : d ≠ .turnEnded) :
    b'.state.currentTurn = b.state.currentTurn := by
  cases h with
  | turnEnded => exact absurd rfl hd
  | _ => rfl

theorem Does.targetTurn (h : Does cfg d b b') (hd : d ≠ .aimed) :
    b'.state.targetTurn = b.state.targetTurn := by
  cases h with
  | aimed => exact absurd rfl hd
  | _ => rfl

theorem Does.of_turnEnded (h : Does cfg .turnEnded b b') :
    b'.state = { b.state with currentTurn := b.state.currentTurn + 1 } := by
  cases h
  rfl

theorem Does.of_fallen (h : Does cfg .fallen b b') :
    b'.state = { b.state with retreated := true } := by
  cases h <;> rfl

inductive Step (cfg : Settings) (K : Deed → Prop) : Battle → Battle → Prop
  | aside (h : Aside cfg.Clicks b b') : Step cfg K b b'
  | deed (hk : K d) (h : Does cfg d b b') : Step cfg K b b'

abbrev Moves (cfg : Settings) (K : Deed → Prop) : Battle → Battle → Prop :=
  Relation.ReflTransGen (Step cfg K)

variable {cfg : Settings} {K K' : Deed → Prop}

theorem Step.mono (hK : ∀ d, K d → K' d) (h : Step cfg K b b') : Step cfg K' b b' := by
  cases h with
  | aside h => exact .aside h
  | deed hk h => exact .deed (hK _ hk) h

theorem Moves.mono (hK : ∀ d, K d → K' d) (h : Moves cfg K b b') : Moves cfg K' b b' :=
  Relation.ReflTransGen.mono (fun _ _ h => h.mono hK) _ _ h

theorem Asides.moves (h : Asides cfg.Clicks b b') : Moves cfg K b b' :=
  Relation.ReflTransGen.mono (fun _ _ => .aside) _ _ h

theorem Asks.moves (h : Asks cfg.Light b b') : Moves cfg K b b' :=
  Relation.ReflTransGen.mono (fun _ _ h => .aside (.ask h)) _ _ h

theorem Asks.light (h : name ≠ "retreat_confirmation") (ha : Asks (ScreenOp.Presses name) b b') :
    Asks cfg.Light b b' :=
  have hlight : isWeighty name = false ∨ cfg.Clicks name := .inr (Settings.clicks_of_ne h)
  Relation.ReflTransGen.mono (fun _ _ ha => ha.mono fun _ => ScreenOp.Presses.light hlight) _ _ ha

/-- What every step keeps is kept throughout. -/
theorem Moves.keeps {I : Battle → Prop} (hI : ∀ b b', Step cfg K b b' → I b → I b')
    (h : Moves cfg K b b') (hb : I b) : I b' := by
  induction h with
  | refl => exact hb
  | tail _ h ih => exact hI _ _ h ih

/-- What every deed keeps of the state is kept throughout. -/
theorem Moves.keeps_state {R : BattleState → Prop}
    (hR : ∀ d b b', K d → Does cfg d b b' → R b.state → R b'.state)
    (h : Moves cfg K b b') (hb : R b.state) : R b'.state := by
  refine h.keeps (I := fun b => R b.state) (fun b b' h hb => ?_) hb
  cases h with
  | aside h => rwa [h.state]
  | deed hk h => exact hR _ _ _ hk h hb

/-- The battle was moved to the end that its last look found. -/
def Halted (cfg : Settings) (K : Deed → Prop) (b₀ : Battle) (outcome : Outcome) (b : Battle) :
    Prop :=
  ∃ b₁, Moves cfg K b₀ b₁ ∧ Verdict cfg outcome b₁ ∧ b = b₁.concluded outcome

theorem Halted.mono (hK : ∀ d, K d → K' d) (h : Halted cfg K b₀ outcome b) :
    Halted cfg K' b₀ outcome b := by
  obtain ⟨b₁, hm, hv, rfl⟩ := h
  exact ⟨b₁, hm.mono hK, hv, rfl⟩

theorem Moves.trans_halted (hm : Moves cfg K b₀ b₁) (h : Halted cfg K b₁ outcome b) :
    Halted cfg K b₀ outcome b := by
  obtain ⟨b₂, h, hv, rfl⟩ := h
  exact ⟨b₂, hm.trans h, hv, rfl⟩

end Battle
end BattlePilot
