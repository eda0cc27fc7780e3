import WorldScripts.Proofs.Step.Plan

/-!
How a command comes to ask something of the world. Its roles are found, a plan is made for them, and
the plan is carried out; the only thing asked is the effect of the plan. Whatever is wrong with roles,
places or texts turns up while the plan is made, so that a refusal is always one of the world itself.
-/

namespace WorldScripts

def StepError.isRefusal : StepError → Bool
  | .refused _ => true
  | _ => false

/-- What was found is as it should be. If nothing was found, that is not for a refusal of the world. -/
def Settles {α : Type} (found : Except StepError α) (sound : α → Prop) : Prop :=
  match found with
  | .error error => error.isRefusal = false
  | .ok value => sound value

section

variable {α β : Type} {sound : α → Prop}

@[simp] theorem settles_ok (value : α) : Settles (.ok value) sound ↔ sound value := Iff.rfl

@[simp] theorem settles_error (error : StepError) :
    Settles (.error error) sound ↔ error.isRefusal = false := Iff.rfl

@[simp] theorem settles_bind {sound : β → Prop} (first : Except StepError α)
    (next : α → Except StepError β) :
    Settles (first >>= next) sound ↔ Settles first fun value => Settles (next value) sound := by
  cases first <;> rfl

@[simp] theorem settles_map {sound : β → Prop} (found : Except StepError α) (f : α → β) :
    Settles (f <$> found) sound ↔ Settles found fun value => sound (f value) := by
  cases found <;> rfl

@[simp] theorem settles_ite {choice : Prop} [Decidable choice] (yes no : Except StepError α) :
    Settles (if choice then yes else no) sound ↔
      (choice → Settles yes sound) ∧ (¬ choice → Settles no sound) := by
  by_cases chosen : choice <;> simp [chosen]

theorem Settles.mono {other : α → Prop} {found : Except StepError α} (settled : Settles found sound)
    (weaker : ∀ value, sound value → other value) : Settles found other := by
  cases found with
  | error error => exact settled
  | ok value => exact weaker value settled

end

namespace Step

variable (step : Step) (world : World) {sound : Guid → Prop}

theorem settles_require (role : Role) (guid? : Option Guid) (capacity : Capacity) :
    Settles (step.require role guid? capacity) sound ↔
      ∀ guid, guid? = some guid → capacity.admits guid.kind = true → sound guid := by
  unfold require
  cases guid? with
  | none => simp [StepError.isRefusal]
  | some guid =>
      by_cases able : capacity.admits guid.kind <;> simp [able, StepError.isRefusal]

@[simp] theorem settles_source (capacity : Capacity) :
    Settles (step.source capacity) sound ↔
      ∀ guid, step.roles.source = some guid → capacity.admits guid.kind = true → sound guid :=
  step.settles_require _ _ _

@[simp] theorem settles_target (capacity : Capacity) :
    Settles (step.target capacity) sound ↔
      ∀ guid, step.roles.target = some guid → capacity.admits guid.kind = true → sound guid :=
  step.settles_require _ _ _

theorem settles_either (capacity : Capacity) (first second : Option Guid)
    (able : ∀ guid, first = some guid ∨ second = some guid → capacity.admits guid.kind = true →
      sound guid) :
    Settles (step.either capacity first second) sound := by
  unfold either
  split
  · rename_i guid found
    have member := List.mem_of_find?_eq_some found
    rw [List.mem_append, Option.mem_toList, Option.mem_toList] at member
    have admitted := List.find?_some found
    exact able guid member admitted
  · rfl

@[simp] theorem settles_positionOf {sound : Position → Prop} (guid : Guid) :
    Settles (step.positionOf world guid) sound ↔
      ∀ position, world.positionOf? guid = some position → sound position := by
  unfold positionOf
  cases world.positionOf? guid <;> simp [StepError.isRefusal]

@[simp] theorem settles_objectOfSpawn (dbGuid : UInt32) :
    Settles (step.objectOfSpawn world dbGuid) sound ↔
      ∀ object, world.findByDbGuid? .gameObject dbGuid = some object → sound object := by
  unfold objectOfSpawn
  cases world.findByDbGuid? .gameObject dbGuid <;> simp [StepError.isRefusal]

@[simp] theorem settles_planAsk {sound : Plan → Prop} (role : Except StepError Guid)
    (effect : Guid → Effect) :
    Settles (planAsk role effect) sound ↔ Settles role fun guid => sound (.act (effect guid)) :=
  settles_bind _ _

theorem settles_questGiver (player : Guid) (any : ∀ giver, sound giver) :
    Settles (step.questGiver player) sound := by
  unfold questGiver
  dsimp only
  split
  · exact any _
  · rfl

theorem settles_searchEnds {sound : Bool → Prop} (creature distance : UInt32)
    (any : ∀ ends, sound ends) : Settles (step.searchEnds world creature distance) sound := by
  unfold searchEnds
  split
  · exact any true
  · split
    · rfl
    · exact any _

end Step

/-- The effect that a plan hands to the world, secondary ones included. -/
def Plan.effect? : Plan → Option Effect
  | .pass => none
  | .act effect => some effect
  | .stop attempt => attempt.bind fun attempt => attempt.effect.toOption

namespace World

/-- What becomes of the world when it is handed an effect, or nothing at all. -/
def offered (world : World) : Option Effect → World
  | none => world
  | some effect => (world.apply effect).2

end World

theorem Attempt.carryOut_world (attempt : Attempt) (tag : Tag) (world : World) :
    (attempt.carryOut tag world).1 = world.offered attempt.effect.toOption := by
  unfold Attempt.carryOut
  cases attempt.effect with
  | error error => rfl
  | ok effect =>
      simp only [Except.toOption, World.offered]
      rcases world.apply_cases effect with ⟨refusal, _, applied⟩ | ⟨_, applied⟩ <;>
        simp only [applied]

namespace Plan

variable (plan : Plan) (tag : Tag) (text : String) (world : World)

theorem carryOut_world : (plan.carryOut tag text world).world = world.offered plan.effect? := by
  cases plan with
  | pass => rfl
  | act effect =>
      simp only [carryOut, effect?, World.offered]
      rcases world.apply_cases effect with ⟨refusal, _, applied⟩ | ⟨_, applied⟩ <;>
        simp only [applied]
  | stop attempt? =>
      cases attempt? with
      | none => rfl
      | some attempt => exact attempt.carryOut_world tag world

theorem carryOut_error {error : StepError} :
    (plan.carryOut tag text world).outcome = .error error ↔
      ∃ effect refusal, plan = .act effect ∧ world.refusal? effect = some refusal ∧
        error = .refused refusal := by
  cases plan with
  | pass => simp [carryOut]
  | act effect =>
      simp only [carryOut]
      rcases world.apply_cases effect with ⟨refusal, refused, applied⟩ | ⟨accepted, applied⟩
      · simp [applied, refused, eq_comm]
      · simp [applied, accepted]
  | stop attempt? => cases attempt? <;> simp [carryOut]

end Plan

namespace Instruction

variable (instruction : Instruction) (roles : Roles) (world : World) (texts : Texts)
variable (draws : Draws)

def planned : Except StepError Plan :=
  match instruction.resolve roles world with
  | .error error => .error error
  | .ok given => (Step.plan ⟨instruction, given⟩ world texts draws).1

/-- The effect that a command hands to the world, whatever the world makes of it. -/
def request? : Option Effect :=
  (instruction.planned roles world texts draws).toOption.bind Plan.effect?

theorem request?_of_planned {plan : Plan}
    (made : instruction.planned roles world texts draws = .ok plan) :
    instruction.request? roles world texts draws = plan.effect? := by
  rw [request?, made]
  rfl

theorem planned_eq :
    instruction.planned roles world texts draws =
      match instruction.findBuddy roles world with
      | .error error => .error error
      | .ok buddy =>
          (Step.plan ⟨instruction, instruction.flags.assign roles buddy⟩ world texts draws).1 := by
  unfold planned resolve
  cases instruction.findBuddy roles world <;> rfl

-- A command without a plan fails, and one with a plan carries it out. What is logged before that is
-- only where the buddy was found.
theorem execute_planned :
    ∃ found text, (∀ line ∈ found, line.level = .debug) ∧
      (instruction.execute roles world texts draws).1 =
        match instruction.planned roles world texts draws with
        | .error error => ⟨.error error, world, found⟩
        | .ok plan =>
            { plan.carryOut instruction.tag text world with
              log := found ++ (plan.carryOut instruction.tag text world).log } := by
  obtain ⟨text, executed⟩ := instruction.execute_eq roles world texts draws
  rw [planned_eq, executed]
  cases instruction.findBuddy roles world with
  | error error => exact ⟨[], text, by simp, rfl⟩
  | ok buddy =>
      refine ⟨instruction.buddyLines buddy, text, ?_, ?_⟩
      · intro line member
        obtain ⟨guid, _, rfl⟩ := List.mem_map.mp member
        rfl
      · dsimp only
        rcases Step.plan ⟨instruction, instruction.flags.assign roles buddy⟩ world texts draws with
          ⟨error | plan, left⟩
        · rfl
        · rfl

theorem execute_world :
    (instruction.execute roles world texts draws).1.world =
      world.offered (instruction.request? roles world texts draws) := by
  obtain ⟨found, text, _, executed⟩ := instruction.execute_planned roles world texts draws
  rw [executed, request?]
  cases instruction.planned roles world texts draws with
  | error error => rfl
  | ok plan => exact plan.carryOut_world instruction.tag text world

theorem resolve_settles {sound : Roles → Prop}
    (any : ∀ given, instruction.resolve roles world = .ok given → sound given) :
    Settles (instruction.resolve roles world) sound := by
  cases found : instruction.resolve roles world with
  | ok given => exact any given found
  | error error =>
      unfold resolve findBuddy at found
      split at found
      · cases found
      · split at found
        · cases found
        · cases found
          rfl

end Instruction

end WorldScripts
