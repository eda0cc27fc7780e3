import WorldScripts.Proofs.World.Applying
import WorldScripts.Speech

/-!
Effects that a world accepts one after the other. A world records what it accepts, so that the record
tells which effects lie between two worlds, and one of them can be rebuilt from the other.
-/

namespace WorldScripts.World

variable {before middle after world changed : World} {effect : Effect}
variable {accepted further : List Effect}

theorem effects_alter (world : World) (effect : Effect) :
    (world.alter effect).effects = world.effects := by
  unfold alter
  split <;> rfl

theorem effects_apply (applied : world.apply effect = (.ok (), changed)) :
    changed.effects = world.effects ++ [effect] := by
  obtain ⟨_, rfl⟩ := apply_eq_ok.mp applied
  rw [record, effects_alter]

/-- Each effect is accepted by the world that the ones before it have left behind. -/
def Accepts (before : World) (accepted : List Effect) (after : World) : Prop :=
  before.applyAll accepted = (.ok (), after)

theorem accepts_nil : before.Accepts [] after ↔ after = before := by
  constructor
  · rintro ⟨⟩
    rfl
  · rintro rfl
    rfl

theorem accepts_cons : before.Accepts (effect :: accepted) after ↔
    ∃ middle, before.apply effect = (.ok (), middle) ∧ middle.Accepts accepted after := by
  unfold Accepts
  rw [applyAll]
  rcases before.apply_cases effect with ⟨refusal, _, applied⟩ | ⟨_, applied⟩ <;> simp [applied]

theorem accepts_single : world.Accepts [effect] changed ↔ world.apply effect = (.ok (), changed) := by
  rw [accepts_cons]
  constructor
  · rintro ⟨middle, applied, rest⟩
    rw [accepts_nil.mp rest]
    exact applied
  · intro applied
    exact ⟨changed, applied, accepts_nil.mpr rfl⟩

theorem Accepts.append (first : before.Accepts accepted middle)
    (rest : middle.Accepts further after) : before.Accepts (accepted ++ further) after := by
  induction accepted generalizing before with
  | nil =>
      rw [accepts_nil.mp first] at rest
      exact rest
  | cons effect accepted ih =>
      obtain ⟨next, applied, first⟩ := accepts_cons.mp first
      exact accepts_cons.mpr ⟨next, applied, ih first⟩

theorem Accepts.recorded (accepts : before.Accepts accepted after) :
    after.effects = before.effects ++ accepted := by
  induction accepted generalizing before with
  | nil => rw [accepts_nil.mp accepts, List.append_nil]
  | cons effect accepted ih =>
      obtain ⟨next, applied, rest⟩ := accepts_cons.mp accepts
      rw [ih rest, effects_apply applied, List.append_assoc]
      rfl

end WorldScripts.World
