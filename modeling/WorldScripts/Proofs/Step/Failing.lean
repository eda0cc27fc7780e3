import Mathlib.Data.List.GetD
import WorldScripts.Proofs.Decode.Provenance
import WorldScripts.Proofs.Step.Planning

/-!
Why commands fail. Apart from what the world refuses, a command fails because somebody or something that
takes part in it is not around, or is not able to; only when a text is to be spoken can it be the text
that is wanting, and only the reserved command cannot be executed at all.
-/

namespace WorldScripts

/-- Somebody or something that takes part in the command is not around, or not able. -/
def StepError.isAbsence : StepError → Bool
  | .missingRole _ .text | .missingText _ | .refused _ | .undispatchable _ => false
  | _ => true

def OnlyByAbsence {α : Type} (found : Except StepError α) : Prop :=
  ∀ error, found = .error error → error.isAbsence = true

section

variable {α β : Type}

@[simp] theorem onlyByAbsence_ok (value : α) : OnlyByAbsence (.ok value) := by
  rintro error ⟨⟩

@[simp] theorem onlyByAbsence_error (error : StepError) :
    OnlyByAbsence (.error error : Except StepError α) ↔ error.isAbsence = true := by
  simp [OnlyByAbsence]

@[simp] theorem onlyByAbsence_bind (first : Except StepError α) (next : α → Except StepError β) :
    OnlyByAbsence (first >>= next) ↔
      OnlyByAbsence first ∧ Yields first fun value => OnlyByAbsence (next value) := by
  cases first with
  | error error => simp [Yields, error_bind]
  | ok value => simp [Yields, ok_bind]

@[simp] theorem onlyByAbsence_map (found : Except StepError α) (f : α → β) :
    OnlyByAbsence (f <$> found) ↔ OnlyByAbsence found := by
  simp [map_eq_pure_bind, pure, Except.pure]

@[simp] theorem onlyByAbsence_ite {choice : Prop} [Decidable choice] (yes no : Except StepError α) :
    OnlyByAbsence (if choice then yes else no) ↔
      (choice → OnlyByAbsence yes) ∧ (¬ choice → OnlyByAbsence no) := by
  by_cases chosen : choice <;> simp [chosen]

end

namespace Step

variable (step : Step) (world : World)

theorem onlyByAbsence_require {role : Role} (person : role ≠ .text) (guid? : Option Guid)
    (capacity : Capacity) : OnlyByAbsence (step.require role guid? capacity) := by
  unfold require
  cases guid? with
  | none => cases role <;> simp_all [StepError.isAbsence]
  | some guid =>
      dsimp only
      split <;> simp [StepError.isAbsence]

@[simp] theorem onlyByAbsence_source (capacity : Capacity) : OnlyByAbsence (step.source capacity) :=
  step.onlyByAbsence_require (by decide) _ _

@[simp] theorem onlyByAbsence_target (capacity : Capacity) : OnlyByAbsence (step.target capacity) :=
  step.onlyByAbsence_require (by decide) _ _

@[simp] theorem onlyByAbsence_either (capacity : Capacity) (first second : Option Guid) :
    OnlyByAbsence (step.either capacity first second) := by
  unfold either
  split <;> simp [StepError.isAbsence]

@[simp] theorem onlyByAbsence_targetOrSource (capacity : Capacity) :
    OnlyByAbsence (step.targetOrSource capacity) :=
  step.onlyByAbsence_either _ _ _

@[simp] theorem onlyByAbsence_sourceOrTarget (capacity : Capacity) :
    OnlyByAbsence (step.sourceOrTarget capacity) :=
  step.onlyByAbsence_either _ _ _

@[simp] theorem onlyByAbsence_positionOf (guid : Guid) :
    OnlyByAbsence (step.positionOf world guid) := by
  unfold positionOf
  split <;> simp [StepError.isAbsence]

@[simp] theorem onlyByAbsence_objectOfSpawn (dbGuid : UInt32) :
    OnlyByAbsence (step.objectOfSpawn world dbGuid) := by
  unfold objectOfSpawn
  split <;> simp [StepError.isAbsence]

@[simp] theorem onlyByAbsence_questGiver (player : Guid) :
    OnlyByAbsence (step.questGiver player) := by
  unfold questGiver
  dsimp only
  split <;> simp [StepError.isAbsence]

@[simp] theorem onlyByAbsence_searchEnds (creature distance : UInt32) :
    OnlyByAbsence (step.searchEnds world creature distance) := by
  unfold searchEnds
  split
  · exact onlyByAbsence_ok _
  · split <;> simp [StepError.isAbsence]

@[simp] theorem onlyByAbsence_facing (reset : Bool) : OnlyByAbsence (step.facing reset) := by
  simp [facing]

@[simp] theorem onlyByAbsence_castRoles (direction : CastDirection) :
    OnlyByAbsence (step.castRoles direction) := by
  cases direction <;> simp [castRoles]

theorem onlyByAbsence_audience (chat : ChatType) : OnlyByAbsence (step.audience chat) := by
  simp [audience]

@[simp] theorem onlyByAbsence_anchored : OnlyByAbsence (step.anchored world) := by
  simp [anchored]

@[simp] theorem onlyByAbsence_destination : OnlyByAbsence (step.destination world) := by
  simp [destination]

@[simp] theorem onlyByAbsence_isNear (other player : Guid) (distance : UInt32) :
    OnlyByAbsence (step.isNear world other player distance) := by
  simp [isNear]

@[simp] theorem onlyByAbsence_listener (targetOnly : Bool) :
    OnlyByAbsence (step.listener targetOnly) := by
  simp [listener]

@[simp] theorem onlyByAbsence_planAsk (role : Except StepError Guid) (effect : Guid → Effect) :
    OnlyByAbsence (planAsk role effect) ↔ OnlyByAbsence role := by
  simp [planAsk]

theorem onlyByAbsence_planMoveDynamic (maxDistance minDistance : UInt32) (draws : Draws) :
    OnlyByAbsence (step.planMoveDynamic world maxDistance minDistance draws).1 := by
  have found := step.onlyByAbsence_anchored world
  unfold planMoveDynamic
  cases anchored : step.anchored world with
  | error error => exact (onlyByAbsence_error error).mpr (found error anchored)
  | ok pair => exact onlyByAbsence_ok _

theorem onlyByAbsence_plan (texts : Texts) (draws : Draws) (silent : step.tag ≠ .talk)
    (runs : step.tag ≠ .reserved) : OnlyByAbsence (step.plan world texts draws).1 := by
  unfold plan
  cases command : step.instruction.command with
  | talk => exact absurd (congrArg Command.tag command) silent
  | reserved => exact absurd (congrArg Command.tag command) runs
  | moveDynamic maxDistance minDistance =>
      exact step.onlyByAbsence_planMoveDynamic world maxDistance minDistance draws
  | _ => simp [planMoveTo, planExploreQuest, planSummon, planCast, planPlaySound, planTerminate]

end Step

/-- What planning to speak one of some texts can come to. -/
inductive Spoken (texts : Texts) (chat : ChatType) (language : UInt32) (candidates : List Int32) :
    Except StepError Plan → Prop where
  | absent {error : StepError} : error.isAbsence = true →
      Spoken texts chat language candidates (.error error)
  | nothing (tag : Tag) : candidates = [] →
      Spoken texts chat language candidates (.error (.missingRole tag .text))
  | unknown {id : Int32} : id ∈ candidates → texts.contains id = false →
      Spoken texts chat language candidates (.error (.missingText id))
  | known {id : Int32} (speaker : Guid) (target : Option Guid) :
      id ∈ candidates → texts.contains id = true →
      Spoken texts chat language candidates (.ok (.act (.say speaker target id chat language)))

theorem Step.planTalk_spoken (step : Step) (texts : Texts) (chat : ChatType) (language : UInt32)
    (draws : Draws) :
    Spoken texts chat language step.instruction.command.texts
      (step.planTalk texts chat language draws).1 := by
  have audible := step.onlyByAbsence_audience chat
  unfold planTalk
  cases heard : step.audience chat with
  | error error => exact .absent (audible error heard)
  | ok pair =>
      obtain ⟨speaker, target⟩ := pair
      dsimp only
      split
      · rename_i empty
        exact .nothing _ (List.isEmpty_iff.mp empty)
      · rename_i several
        -- The place that is drawn lies within the list, so that no default is taken.
        have drawn : (draws.index step.instruction.command.texts.length).1 <
            step.instruction.command.texts.length :=
          Nat.mod_lt _ (List.length_pos_iff.mpr fun empty => several (List.isEmpty_iff.mpr empty))
        have member := List.getElem_mem drawn
        rw [← List.getD_eq_getElem _ 0 drawn] at member
        split
        · rename_i held
          exact .known _ _ member held
        · rename_i lost
          exact .unknown member (Bool.not_eq_true _ ▸ lost)

theorem Command.eq_talk {command : Command} (talks : command.tag = .talk) :
    ∃ chat language columns, command = .talk chat language columns := by
  cases command with
  | talk chat language columns => exact ⟨chat, language, columns, rfl⟩
  | changeFlag chosen | useDoor chosen | changeDisplay chosen => cases chosen <;> cases talks
  | _ => cases talks

theorem Command.eq_reserved {command : Command} (reserves : command.tag = .reserved) :
    command = .reserved := by
  cases command with
  | reserved => rfl
  | changeFlag chosen | useDoor chosen | changeDisplay chosen => cases chosen <;> cases reserves
  | _ => cases reserves

namespace Instruction

variable (instruction : Instruction) (roles : Roles) (world : World) (texts : Texts)
variable (draws : Draws)

theorem onlyByAbsence_resolve : OnlyByAbsence (instruction.resolve roles world) := by
  have found : OnlyByAbsence (instruction.findBuddy roles world) := by
    unfold findBuddy
    split
    · exact onlyByAbsence_ok _
    · split <;> simp [StepError.isAbsence]
  simpa [resolve] using found

variable {instruction}

theorem onlyByAbsence_planned (silent : instruction.tag ≠ .talk)
    (runs : instruction.tag ≠ .reserved) :
    OnlyByAbsence (instruction.planned roles world texts draws) := by
  have found := instruction.onlyByAbsence_resolve roles world
  unfold planned
  cases resolved : instruction.resolve roles world with
  | error error => exact (onlyByAbsence_error error).mpr (found error resolved)
  | ok given => exact Step.onlyByAbsence_plan ⟨instruction, given⟩ world texts draws silent runs

theorem planned_spoken {chat : ChatType} {language : UInt32} {columns : Vector Int32 4}
    (command : instruction.command = .talk chat language columns) :
    Spoken texts chat language instruction.command.texts
      (instruction.planned roles world texts draws) := by
  have found := instruction.onlyByAbsence_resolve roles world
  unfold planned
  cases resolved : instruction.resolve roles world with
  | error error => exact .absent (found error resolved)
  | ok given =>
      have planned : Step.plan ⟨instruction, given⟩ world texts draws =
          Step.planTalk ⟨instruction, given⟩ texts chat language draws := by
        simp only [Step.plan, command]
      dsimp only
      rw [planned]
      exact Step.planTalk_spoken ⟨instruction, given⟩ texts chat language draws

theorem planned_reserved {error : StepError} (command : instruction.command = .reserved)
    (failed : instruction.planned roles world texts draws = .error error) :
    error.isAbsence = true ∨ error = .undispatchable instruction.tag := by
  have found := instruction.onlyByAbsence_resolve roles world
  unfold planned at failed
  cases resolved : instruction.resolve roles world with
  | error reason =>
      rw [resolved] at failed
      cases failed
      exact .inl (found error resolved)
  | ok given =>
      simp only [resolved, Step.plan, command] at failed
      cases failed
      exact .inr rfl

-- Only with a text to speak, or for the reserved command, can a plan fail for want of anything but who
-- takes part.
theorem planned_error {error : StepError}
    (failed : instruction.planned roles world texts draws = .error error) :
    error.isAbsence = true ∨
      (instruction.command = .reserved ∧ error = .undispatchable instruction.tag) ∨
      ∃ chat language columns, instruction.command = .talk chat language columns ∧
        ((∃ tag, instruction.command.texts = [] ∧ error = .missingRole tag .text) ∨
          ∃ id ∈ instruction.command.texts, texts.contains id = false ∧ error = .missingText id) := by
  by_cases talks : instruction.tag = .talk
  · obtain ⟨chat, language, columns, command⟩ := Command.eq_talk talks
    have spoken := planned_spoken roles world texts draws command
    rw [failed] at spoken
    cases spoken with
    | absent absence => exact .inl absence
    | nothing tag empty => exact .inr (.inr ⟨_, _, _, command, .inl ⟨tag, empty, rfl⟩⟩)
    | unknown member lost => exact .inr (.inr ⟨_, _, _, command, .inr ⟨_, member, lost, rfl⟩⟩)
  by_cases reserves : instruction.tag = .reserved
  · have command := Command.eq_reserved reserves
    rcases planned_reserved roles world texts draws command failed with absence | undispatchable
    · exact .inl absence
    · exact .inr (.inl ⟨command, undispatchable⟩)
  · exact .inl (onlyByAbsence_planned roles world texts draws talks reserves error failed)

-- A command fails because its plan does, or because the world refuses what it asks.
theorem execute_error {error : StepError}
    (failed : (instruction.execute roles world texts draws).1.outcome = .error error) :
    instruction.planned roles world texts draws = .error error ∨
      ∃ refusal, error = .refused refusal := by
  obtain ⟨found, text, _, executed⟩ := instruction.execute_planned roles world texts draws
  rw [executed] at failed
  cases made : instruction.planned roles world texts draws with
  | error reason =>
      rw [made] at failed
      cases failed
      exact .inl rfl
  | ok plan =>
      rw [made] at failed
      obtain ⟨_, refusal, _, _, same⟩ := (plan.carryOut_error instruction.tag text world).mp failed
      exact .inr ⟨refusal, same⟩

end Instruction

end WorldScripts
