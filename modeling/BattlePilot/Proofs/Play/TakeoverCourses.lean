import BattlePilot.Proofs.Play.CommandCourses

/-! The courses that play on after the script. The battle ends by what a look for its end has
found, or at once in a raid that shows the way to the next battle. -/

namespace BattlePilot

namespace Battle

/-- What may be done once the script has run out. -/
def Deed.Onward : Deed → Prop
  | turnEnded | enabled | released | fallen => True
  | _ => False

theorem Deed.Onward.inPlay : Play.InPlay Deed.Onward := ⟨trivial, trivial, trivial, trivial⟩

/-- How a battle that plays on comes to its end. -/
inductive PlaysOn (cfg : Settings) (b₀ : Battle) : Outcome → Battle → Prop
  | found (hm : Moves cfg Deed.Onward b₀ b) (hv : Verdict cfg outcome b) :
    PlaysOn cfg b₀ outcome b
  | movedOn (hr : cfg.farmingMode = .raid) (ha : Asks cfg.Light b₀ b₁) (hf : Finds cfg none b₁)
      (hc : Play.Clicked "next" b₁ b) : PlaysOn cfg b₀ .battleConcluded b

end Battle

namespace Play
open Battle Relation

variable (cfg : Settings) {K : Deed → Prop}

theorem watchAuto.course (hk : InPlay K) :
    ∀ rounds, Course cfg K Anyhow (watchAuto cfg rounds) fun _ => Anyhow
  | 0 => fun _ => .unfinished
  | rounds + 1 => by
    refine .bind (check.course cfg) fun _ => .bind (pressNext.course cfg) fun _ => ?_
    refine .bind (R := fun _ => Anyhow) ?_ fun _ => ?_
    · exact .discard ((wipeCheck.course cfg hk.fallen).mono_start fun _ h => h.2)
    · exact .bind (.quiet (wait.quiet _)) fun _ => watchAuto.course hk rounds

theorem attackOnce.course (hk : InPlay K) :
    Course cfg K Stays (attackOnce cfg) fun _ => Anyhow := by
  refine .bind (findAndClick.course cfg (by decide) _) fun clicked => ?_
  split
  · refine .bind (.quiet (settleAttack.quiet cfg)) fun _ => ?_
    refine .bind (.quiet (reloadAfterAttack.quiet cfg)) fun _ => ?_
    refine .bind (waitForAttack.course cfg hk.fallen _).of_anyhow fun resolved => ?_
    split
    · exact finishTurn.anyhow hk.turnEnded
    · exact .pure fun _ h => h
  · exact .discard (wipeCheck.course cfg hk.fallen)

theorem attackOn.course (hk : InPlay K) :
    ∀ rounds, Course cfg K Anyhow (attackOn cfg rounds) fun _ => Anyhow
  | 0 => fun _ => .unfinished
  | rounds + 1 => by
    refine .bind (check.course cfg) fun _ => .bind (pressNext.course cfg) fun _ => ?_
    refine .bind ((attackOnce.course cfg hk).mono_start fun _ h => h.2) fun _ => ?_
    exact .bind (.quiet (wait.quiet _)) fun _ => attackOn.course hk rounds

theorem handOver.course (hk : InPlay K) :
    Course cfg K Anyhow (handOver cfg) fun _ => Anyhow := by
  refine .bind (resumeAuto.course cfg hk) fun _ => .get_bind fun b _ => ?_
  dsimp only
  split
  · split
    · exact .bind (runQuickSummon.course cfg hk []).of_anyhow
        fun _ => enableAuto.course cfg hk .full
    · exact (enableAuto.course cfg hk .full).of_anyhow
  · exact .pure fun _ _ => trivial

/-- Playing on ends by what a look has found, or by moving on to the next battle of a raid. -/
theorem playOn.spec (rounds : Nat) (b₀ : Battle) :
    Spec (· = b₀) (playOn cfg rounds) (fun _ _ => True)
      fun outcome b => ∃ b₁, PlaysOn cfg b₀ outcome b₁ ∧ b = b₁.concluded outcome := by
  have hk := Deed.Onward.inPlay
  have rest : Course cfg Deed.Onward Anyhow (do
      if (← get).state.attacksOn then attackOn cfg rounds
      else
        handOver cfg
        if (← get).state.autoMode.isActive then watchAuto cfg rounds
        else attackOn cfg rounds) fun _ => Anyhow := by
    refine .get_bind fun b _ => ?_
    split
    · exact (attackOn.course cfg hk rounds).of_anyhow
    · refine .bind (handOver.course cfg hk).of_anyhow fun _ => ?_
      refine .get_bind fun b _ => ?_
      split
      · exact (watchAuto.course cfg hk rounds).of_anyhow
      · exact (attackOn.course cfg hk rounds).of_anyhow
  refine .bind ((check.alone cfg b₀).mono_ended
    fun _ _ ⟨b₁, h, hv, hb⟩ => ⟨b₁, .found h.moves hv, hb⟩) fun _ => ?_
  refine .of_eq fun b ⟨ha, hf⟩ => ?_
  have moves : Spec (· = b) (onlyIf (cfg.farmingMode == .raid) (findAndClick cfg "next" 3))
      (fun moved b' => (moved = true → (cfg.farmingMode == .raid) = true) ∧
        Pressed "next" b moved b') fun _ _ => False :=
    .onlyIf (findAndClick.pressed cfg "next" 3 b).spec fun _ h => .missed (h ▸ .refl)
  refine .bind moves.of_never fun moved => ?_
  split
  · next h =>
    subst h
    refine ⟨fun b' ⟨hr, hp⟩ => ?_⟩
    cases hp with
    | clicked hc => exact ⟨b', .movedOn (eq_of_beq (hr rfl)) ha hf hc, rfl⟩
  · refine .of_eq fun b' ⟨_, hp⟩ => (rest.alone b' trivial).mono_result
      (fun _ _ _ => trivial) fun _ _ ⟨b₁, h, hv, hb⟩ => ⟨b₁, .found ?_ hv, hb⟩
    exact (Asks.moves (ha.trans (hp.asks.light (by decide)))).trans h

end Play
end BattlePilot
