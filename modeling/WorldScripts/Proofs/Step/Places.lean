import WorldScripts.Proofs.Decode.Parts
import WorldScripts.Proofs.Step.Readiness

/-!
Where commands put entities. A command has a point of its own, which was checked when it was read, or it
takes the place where somebody is. Only a dynamic move that keeps its distance computes a new point.
-/

namespace WorldScripts

/-- If the command leads to a point of its own, that is on the map. -/
def Instruction.Grounded (instruction : Instruction) : Prop :=
  match instruction.command with
  | .moveTo _ => instruction.flags.additional = false → instruction.position.OnMap
  | .teleport _ | .summon .. => instruction.position.OnMap
  | _ => True

theorem Row.grounded_of_decode (row : Row) (options : DecodeOptions) :
    Yields (row.decode options) Instruction.Grounded := by
  intro instruction read
  have parts := decode_eq_ok.mp read
  have reads := reads_of_ofByte? parts.flags
  have loadable : instruction.tag ≠ .reserved := by
    intro reserved
    have loads := parts.loadable
    rw [reserved] at loads
    cases loads
  obtain ⟨values, found, sound⟩ := isOk_decodeValues? row reads loadable
  obtain rfl : Except.ok instruction.command = values :=
    Option.some.inj (parts.values.symm.trans found)
  have domain : row.InDomain instruction.tag := sound.mp rfl
  unfold Instruction.Grounded
  rw [parts.position]
  unfold Instruction.tag at domain
  cases command : instruction.command with
  | moveTo time =>
      rw [command] at domain
      intro plain
      exact domain fun set => Bool.false_ne_true (plain.symm.trans (reads.additional.mpr set))
  | teleport map =>
      rw [command] at domain
      exact domain
  | summon =>
      rw [command] at domain
      exact domain.1
  | _ => trivial

def Instruction.Decoded (instruction : Instruction) : Prop :=
  ∃ (row : Row) (options : DecodeOptions), row.decode options = .ok instruction

theorem Instruction.Decoded.grounded {instruction : Instruction} (decoded : instruction.Decoded) :
    instruction.Grounded := by
  obtain ⟨row, options, read⟩ := decoded
  exact row.grounded_of_decode options instruction read

/-- Where an effect puts somebody. -/
def Effect.point? : Effect → Option Position
  | .moveTo _ point _ | .teleport _ _ point | .summon _ _ point .. => some point
  | _ => none

namespace Step

/-- Where a command may put somebody in a world. -/
inductive Reaches (step : Step) (world : World) : Position → Prop
  | own (onMap : step.instruction.Grounded → step.instruction.position.OnMap) :
      Reaches step world step.instruction.position
  | place {guid : Guid} {position : Position} (there : world.positionOf? guid = some position) :
      Reaches step world position
  | around {maxDistance minDistance : UInt32} {guid : Guid} {center point : Position}
      (command : step.instruction.command = .moveDynamic maxDistance minDistance)
      (away : maxDistance ≠ 0) (there : world.positionOf? guid = some center)
      (height : point.z = center.z) (direction : point.o = center.o) : Reaches step world point

@[simp] def Puts (step : Step) (world : World) (effect : Effect) : Prop :=
  ∀ point, effect.point? = some point → step.Reaches world point

variable (step : Step) (world : World)

theorem dynamicPoint_reaches {maxDistance minDistance : UInt32} {guid : Guid} {center : Position}
    (command : step.instruction.command = .moveDynamic maxDistance minDistance)
    (there : world.positionOf? guid = some center) (draws : Draws) :
    step.Reaches world (step.dynamicPoint center maxDistance minDistance draws).1 := by
  unfold dynamicPoint
  by_cases still : maxDistance = 0
  · rw [if_pos still]
    exact .place there
  · rw [if_neg still]
    exact .around command still there rfl rfl

theorem planMoveDynamic_puts {maxDistance minDistance : UInt32} (draws : Draws)
    (command : step.instruction.command = .moveDynamic maxDistance minDistance) :
    Yields (step.planMoveDynamic world maxDistance minDistance draws).1
      (Plan.Asks (step.Puts world)) := by
  unfold planMoveDynamic
  cases found : step.anchored world with
  | error error => exact yields_error _
  | ok pair =>
      obtain ⟨entity, center⟩ := pair
      obtain ⟨anchor, _, there⟩ := step.anchored_yields world _ found
      refine (yields_ok _).mpr ((asks_act _).mpr ?_)
      rintro point ⟨⟩
      exact step.dynamicPoint_reaches world command there draws

theorem destination_reaches {time : UInt32} (command : step.instruction.command = .moveTo time) :
    Yields (step.destination world) (step.Reaches world) := by
  unfold destination
  rw [yields_ite, yields_bind, yields_ok]
  constructor
  · rintro _ anchor _
    exact Settles.yields ((step.settles_positionOf world anchor).mpr fun _ there => .place there)
  · intro plain
    refine .own fun grounded => ?_
    unfold Instruction.Grounded at grounded
    rw [command] at grounded
    exact grounded (eq_false_of_ne_true plain)

theorem planMoveTo_puts {time : UInt32} (command : step.instruction.command = .moveTo time) :
    Yields (step.planMoveTo world time) (Plan.Asks (step.Puts world)) := by
  simp only [planMoveTo, yields_bind, yields_ok, asks_act]
  rintro entity _ destination found point ⟨⟩
  exact step.destination_reaches world command destination found

theorem planExploreQuest_puts (quest distance : UInt32) :
    Yields (step.planExploreQuest world quest distance) (Plan.Asks (step.Puts world)) := by
  simp only [planExploreQuest, yields_bind, yields_ok, asks_act]
  intro player _ other _ near _
  cases near <;> rintro point ⟨⟩

theorem planTalk_puts (texts : Texts) (chat : ChatType) (language : UInt32) (draws : Draws) :
    Yields (step.planTalk texts chat language draws).1 (Plan.Asks (step.Puts world)) := by
  unfold planTalk
  cases step.audience chat with
  | error error => exact yields_error _
  | ok pair =>
      dsimp only
      split
      · exact yields_error _
      · split <;> simp [Effect.point?]

theorem plan_puts (texts : Texts) (draws : Draws) :
    Yields (step.plan world texts draws).1 (Plan.Asks (step.Puts world)) := by
  unfold plan
  cases command : step.instruction.command with
  | moveDynamic maxDistance minDistance => exact step.planMoveDynamic_puts world draws command
  | moveTo time => exact step.planMoveTo_puts world command
  | exploreQuest quest distance => exact step.planExploreQuest_puts world quest distance
  | talk chat language columns => exact step.planTalk_puts world texts chat language draws
  | teleport map =>
      have own : step.Reaches world step.instruction.position := .own fun grounded => by
        unfold Instruction.Grounded at grounded
        rwa [command] at grounded
      simp [planAsk, Effect.point?, own]
  | summon creature delay limit distance =>
      have own : step.Reaches world step.instruction.position := .own fun grounded => by
        unfold Instruction.Grounded at grounded
        rwa [command] at grounded
      simp [planSummon, Effect.point?, own]
  | _ =>
      simp [planAsk, planCast, planPlaySound, planTerminate, planTerminateOnCondition, Effect.point?]

end Step

theorem Instruction.request?_reaches (instruction : Instruction) (roles : Roles) (world : World)
    (texts : Texts) (draws : Draws) {effect : Effect} {point : Position}
    (requested : instruction.request? roles world texts draws = some effect)
    (puts : effect.point? = some point) :
    ∃ given, instruction.resolve roles world = .ok given ∧
      Step.Reaches ⟨instruction, given⟩ world point := by
  obtain ⟨given, resolved, reaches⟩ := request?_of_asks roles world texts draws
    (fun given => Step.plan_puts ⟨instruction, given⟩ world texts draws) requested
  exact ⟨given, resolved, reaches point puts⟩

end WorldScripts
