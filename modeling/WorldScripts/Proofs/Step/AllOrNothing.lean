import WorldScripts.Proofs.Step.Plan
import WorldScripts.Proofs.World.Acceptance

/-!
Commands change the world all at once or not at all. Whatever can go wrong with a command goes wrong
before it applies its effect or when the world refuses that, and in both cases nothing has happened yet.
Secondary effects are no exception.
-/

namespace WorldScripts

/-- A command that failed has left the world alone, and any other has led it on by one effect at
most. -/
structure Execution.AllOrNothing (world : World) (done : Execution) : Prop where
  failed : ∀ error, done.outcome = .error error → done.world = world
  applied : done.world = world ∨ ∃ effect, world.apply effect = (.ok (), done.world)

section

variable {world : World} {done : Execution} {effect : Effect} {outcome : Outcome}

theorem Execution.allOrNothing_idle (same : done.world = world) : done.AllOrNothing world :=
  ⟨fun _ _ => same, .inl same⟩

theorem Execution.allOrNothing_applied (succeeded : done.outcome = .ok outcome)
    (applied : world.apply effect = (.ok (), done.world)) : done.AllOrNothing world := by
  refine ⟨?_, .inr ⟨effect, applied⟩⟩
  intro error failed
  rw [succeeded] at failed
  cases failed

theorem Execution.AllOrNothing.accepts (sound : done.AllOrNothing world) :
    ∃ accepted, world.Accepts accepted done.world := by
  rcases sound.applied with same | ⟨effect, applied⟩
  · exact ⟨[], World.accepts_nil.mpr same⟩
  · exact ⟨[effect], World.accepts_single.mpr applied⟩

end

theorem Attempt.carryOut_cases (attempt : Attempt) (tag : Tag) (world : World) :
    (attempt.carryOut tag world).1 = world ∨
      ∃ effect, world.apply effect = (.ok (), (attempt.carryOut tag world).1) := by
  unfold Attempt.carryOut
  cases attempt.effect with
  | error error => exact .inl rfl
  | ok effect =>
      rcases world.apply_cases effect with ⟨refusal, _, applied⟩ | ⟨_, applied⟩
      · exact .inl (by simp only [applied])
      · exact .inr ⟨effect, by simp only [applied]⟩

theorem Plan.carryOut_allOrNothing (plan : Plan) (tag : Tag) (text : String) (world : World) :
    (plan.carryOut tag text world).AllOrNothing world := by
  cases plan with
  | pass => exact Execution.allOrNothing_idle rfl
  | act effect =>
      unfold Plan.carryOut
      rcases world.apply_cases effect with ⟨refusal, _, applied⟩ | ⟨_, applied⟩
      · simp only [applied]
        exact Execution.allOrNothing_idle rfl
      · simp only [applied]
        exact Execution.allOrNothing_applied rfl applied
  | stop attempt? =>
      cases attempt? with
      | none => exact Execution.allOrNothing_idle rfl
      | some attempt =>
          -- Nothing that becomes of the attempt keeps the script from ending.
          rcases attempt.carryOut_cases tag world with same | ⟨effect, applied⟩
          · exact Execution.allOrNothing_idle same
          · exact Execution.allOrNothing_applied rfl applied

namespace Instruction

theorem execute_allOrNothing (instruction : Instruction) (roles : Roles) (world : World)
    (texts : Texts) (draws : Draws) :
    (instruction.execute roles world texts draws).1.AllOrNothing world := by
  obtain ⟨text, executed⟩ := instruction.execute_eq roles world texts draws
  rw [executed]
  cases instruction.findBuddy roles world with
  | error error => exact Execution.allOrNothing_idle rfl
  | ok buddy =>
      dsimp only
      split
      · exact Execution.allOrNothing_idle rfl
      · rename_i plan left _
        -- The line about the buddy is put in front of the log and changes nothing else.
        obtain ⟨failed, applied⟩ := plan.carryOut_allOrNothing instruction.tag text world
        exact ⟨failed, applied⟩

/-- A command that fails leaves the whole world as it was, the record of effects included. One that
does not fail adds one effect to the record at most, and the world becomes what applying that effect
makes of it, or stays as it was. -/
theorem execute_atomic (instruction : Instruction) (roles : Roles) (world : World) (texts : Texts)
    (draws : Draws) :
    let done := (instruction.execute roles world texts draws).1
    (∀ error, done.outcome = .error error → done.world = world) ∧
      ∀ outcome, done.outcome = .ok outcome →
        ∃ accepted, done.world.effects = world.effects ++ accepted ∧
          (accepted = [] ∧ done.world = world ∨
            ∃ effect, accepted = [effect] ∧ world.apply effect = (.ok (), done.world)) := by
  obtain ⟨failed, applied⟩ := instruction.execute_allOrNothing roles world texts draws
  refine ⟨failed, fun outcome _ => ?_⟩
  rcases applied with same | ⟨effect, applied⟩
  · exact ⟨[], by rw [same, List.append_nil], .inl ⟨rfl, same⟩⟩
  · exact ⟨[effect], World.effects_apply applied, .inr ⟨effect, rfl, applied⟩⟩

end Instruction

end WorldScripts
