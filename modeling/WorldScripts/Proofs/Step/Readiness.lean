import WorldScripts.Proofs.Step.Failing

/-!
Whatever is read from a row can be executed. Nothing that was checked while the row was read is checked
again while its command is executed: there is a text to choose, the distance of a move is drawn from a
range that can be drawn from, the delay of a mail is not below zero, and the buddy is found in one way.
-/

namespace WorldScripts

/-- It is not for want of a text that nothing was found. -/
def Speaks {α : Type} (found : Except StepError α) : Prop :=
  ∀ tag, found ≠ .error (.missingRole tag .text)

theorem Settles.yields {α : Type} {found : Except StepError α} {sound : α → Prop}
    (settled : Settles found sound) : Yields found sound := by
  rintro value rfl
  exact settled

/-- Whatever the plan asks for is as it should be. -/
def Plan.Asks (sound : Effect → Prop) (plan : Plan) : Prop :=
  ∀ effect, plan.effect? = some effect → sound effect

section

variable {sound : Effect → Prop}

@[simp] theorem asks_pass : Plan.Asks sound .pass := by
  rintro effect ⟨⟩

@[simp] theorem asks_act (effect : Effect) : Plan.Asks sound (.act effect) ↔ sound effect := by
  simp [Plan.Asks, Plan.effect?]

@[simp] theorem asks_stop (attempt? : Option Attempt) :
    Plan.Asks sound (.stop attempt?) ↔
      ∀ attempt, attempt? = some attempt → Yields attempt.effect sound := by
  cases attempt? with
  | none => simp [Plan.Asks, Plan.effect?]
  | some attempt => cases made : attempt.effect <;> simp [Plan.Asks, Plan.effect?, made, Except.toOption]

@[simp] theorem asks_ite {choice : Prop} [Decidable choice] (yes no : Plan) :
    Plan.Asks sound (if choice then yes else no) ↔
      (choice → Plan.Asks sound yes) ∧ (¬ choice → Plan.Asks sound no) := by
  by_cases chosen : choice <;> simp [chosen]

end

namespace Step

variable (step : Step) (world : World)

@[simp] def Means (draws : Draws) : Effect → Prop
  | .sendMail _ _ template altSender delay => ∃ given,
      step.instruction.command = .sendMail template altSender given ∧
        delay = .ofNat given.toInt.toNat
  | .moveTo _ destination _ => ∀ maxDistance minDistance,
      step.instruction.command = .moveDynamic maxDistance minDistance →
        ∃ anchor center, step.roles.target = some anchor ∧ world.positionOf? anchor = some center ∧
          destination = (step.dynamicPoint center maxDistance minDistance draws).1
  | _ => True

theorem planTalk_means (texts : Texts) (chat : ChatType) (language : UInt32) (draws : Draws) :
    Yields (step.planTalk texts chat language draws).1 (Plan.Asks (step.Means world draws)) := by
  unfold planTalk
  cases step.audience chat with
  | error error => exact yields_error _
  | ok pair =>
      dsimp only
      split
      · exact yields_error _
      · split <;> simp

-- The middle is where the target stands.
theorem anchored_yields : Yields (step.anchored world) fun found =>
    ∃ anchor, step.roles.target = some anchor ∧ world.positionOf? anchor = some found.2 := by
  apply Settles.yields
  simp +contextual [anchored]

theorem planMoveDynamic_means {maxDistance minDistance : UInt32} (draws : Draws)
    (command : step.instruction.command = .moveDynamic maxDistance minDistance) :
    Yields (step.planMoveDynamic world maxDistance minDistance draws).1
      (Plan.Asks (step.Means world draws)) := by
  unfold planMoveDynamic
  cases found : step.anchored world with
  | error error => exact yields_error _
  | ok pair =>
      obtain ⟨entity, center⟩ := pair
      obtain ⟨anchor, target, place⟩ := step.anchored_yields world _ found
      refine (yields_ok _).mpr ((asks_act _).mpr ?_)
      intro _ _ same
      cases command.symm.trans same
      exact ⟨anchor, center, target, place, rfl⟩

theorem plan_means (texts : Texts) (draws : Draws) :
    Yields (step.plan world texts draws).1 (Plan.Asks (step.Means world draws)) := by
  unfold plan
  cases command : step.instruction.command with
  | talk chat language columns => exact step.planTalk_means world texts chat language draws
  | moveDynamic maxDistance minDistance =>
      exact step.planMoveDynamic_means world draws command
  | exploreQuest quest distance =>
      simp only [planExploreQuest, yields_bind, yields_ok, asks_act]
      intro player _ other _ near _
      cases near <;> trivial
  | _ =>
      simp [command, planAsk, planMoveTo, planSummon, planCast, planPlaySound, planTerminate,
        planTerminateOnCondition]

end Step

namespace Instruction

variable (instruction : Instruction) (roles : Roles) (world : World) (texts : Texts)
variable (draws : Draws)

section

variable {instruction}

theorem speaks_execute
    (spoken : ∀ chat language columns, instruction.command = .talk chat language columns →
      instruction.command.texts ≠ []) :
    Speaks (instruction.execute roles world texts draws).1.outcome := by
  intro tag failed
  rcases execute_error roles world texts draws failed with unplanned | ⟨refusal, ⟨⟩⟩
  rcases planned_error roles world texts draws unplanned with absence | ⟨_, ⟨⟩⟩ |
    ⟨chat, language, columns, command, ⟨_, nothing, _⟩ | ⟨_, _, _, ⟨⟩⟩⟩
  · exact absurd absence Bool.false_ne_true
  · exact spoken chat language columns command nothing

-- Only the reserved command ends up in the branch that cannot be executed.
theorem execute_undispatchable {tag : Tag}
    (failed : (instruction.execute roles world texts draws).1.outcome =
      .error (.undispatchable tag)) : instruction.command = .reserved := by
  rcases execute_error roles world texts draws failed with unplanned | ⟨refusal, ⟨⟩⟩
  rcases planned_error roles world texts draws unplanned with absence | ⟨reserved, _⟩ |
    ⟨_, _, _, _, ⟨_, _, ⟨⟩⟩ | ⟨_, _, _, ⟨⟩⟩⟩
  · exact absurd absence Bool.false_ne_true
  · exact reserved

theorem request?_of_asks {sound : Roles → Effect → Prop} {effect : Effect}
    (asks : ∀ given, Yields (Step.plan ⟨instruction, given⟩ world texts draws).1
      (Plan.Asks (sound given)))
    (requested : instruction.request? roles world texts draws = some effect) :
    ∃ given, instruction.resolve roles world = .ok given ∧ sound given effect := by
  unfold request? planned at requested
  cases resolved : instruction.resolve roles world with
  | error error => simp [resolved, Except.toOption] at requested
  | ok given =>
      refine ⟨given, rfl, ?_⟩
      simp only [resolved] at requested
      cases made : (Step.plan ⟨instruction, given⟩ world texts draws).1 with
      | error error => simp [made, Except.toOption] at requested
      | ok plan =>
          rw [made] at requested
          exact asks given plan made effect requested

theorem request?_means {effect : Effect}
    (requested : instruction.request? roles world texts draws = some effect) :
    ∃ given, instruction.resolve roles world = .ok given ∧
      Step.Means ⟨instruction, given⟩ world draws effect :=
  request?_of_asks roles world texts draws
    (fun given => Step.plan_means ⟨instruction, given⟩ world texts draws) requested

end

end Instruction

/-- A number can be drawn from between the two. -/
structure Drawable (low high : Float32) : Prop where
  finiteLow : low.isFinite = true
  finiteHigh : high.isFinite = true
  ascending : low ≤ high

theorem least_le_most (least most : UInt32) : min least most ≤ most := by
  show (if least ≤ most then least else most) ≤ most
  split
  · assumption
  · exact UInt32.le_refl _

theorem Step.dynamicRange_drawable (maxDistance minDistance : UInt32) :
    Drawable (dynamicRange maxDistance minDistance).1 (dynamicRange maxDistance minDistance).2 where
  finiteLow := Binary32.toFloat32_isFinite _
  finiteHigh := Binary32.toFloat32_isFinite _
  ascending := Binary32.toFloat32_le (least_le_most minDistance maxDistance)

def Position.Around (center : Position) (distance : Float32) (point : Position) : Prop :=
  ∃ angle, point = { center with
    x := center.x + distance * Binary32.cos angle
    y := center.y + distance * Binary32.sin angle }

theorem Step.dynamicPoint_around (step : Step) (center : Position) {maxDistance : UInt32}
    (minDistance : UInt32) (draws : Draws) (away : maxDistance ≠ 0) :
    let range := dynamicRange maxDistance minDistance
    center.Around (draws.between range.1 range.2).1
      (step.dynamicPoint center maxDistance minDistance draws).1 := by
  unfold dynamicPoint
  rw [if_neg away]
  exact ⟨_, rfl⟩

theorem Instruction.Ready.texts_ne_nil {instruction : Instruction} {row : Row}
    (ready : instruction.Ready row) {chat : ChatType} {language : UInt32} {columns : Vector Int32 4}
    (command : instruction.command = .talk chat language columns) :
    instruction.command.texts ≠ [] := by
  have fromRow := ready.command
  rw [command] at fromRow ⊢
  obtain ⟨rfl, first⟩ := fromRow
  apply List.ne_nil_of_mem (a := row.dataint)
  exact List.mem_filter.mpr ⟨List.mem_cons_self, by simpa using first⟩

/-- Whatever is read from a row can be executed. The command is the one that the row names, and never
the reserved one, for which there is no handler; there is a text to choose; a dynamic move draws its
distance from between the two distances of the row, which are finite and in order; a mail takes as long as
the row says; and the buddy is not to be found in two ways at once. -/
theorem Instruction.execute_ready {row : Row} {options : DecodeOptions} {instruction : Instruction}
    (read : row.decode options = .ok instruction) (roles : Roles) (world : World) (texts : Texts)
    (draws : Draws) :
    let done := (instruction.execute roles world texts draws).1
    let request := instruction.request? roles world texts draws
    (instruction.tag.number = row.command.toNat ∧ instruction.tag ≠ .reserved) ∧
      (instruction.command ≠ .reserved ∧ ∀ tag, done.outcome ≠ .error (.undispatchable tag)) ∧
      (∀ tag, done.outcome ≠ .error (.missingRole tag .text)) ∧
      (∀ maxDistance minDistance, instruction.command = .moveDynamic maxDistance minDistance →
        let range := Step.dynamicRange maxDistance minDistance
        Drawable range.1 range.2 ∧
          ∀ entity destination time, request = some (.moveTo entity destination time) →
            ∃ given anchor center, instruction.resolve roles world = .ok given ∧
              given.target = some anchor ∧ world.positionOf? anchor = some center ∧
              (row.datalong = 0 → destination = center) ∧
              (row.datalong ≠ 0 → range = (row.datalong2.toFloat32, row.datalong.toFloat32) ∧
                center.Around (draws.between range.1 range.2).1 destination)) ∧
      (∀ sender player template altSender delay,
        request = some (.sendMail sender player template altSender delay) →
          (delay.toNat : Int) = row.dataint.toInt) ∧
      ¬ (instruction.flags.buddyByGuid = true ∧ instruction.flags.buddyIsPet = true) := by
  have ready := row.decode_yields options instruction read
  have dispatched : instruction.command ≠ .reserved :=
    fun reserved => ready.loads (congrArg Command.tag reserved)
  intro done request
  refine ⟨⟨ready.tag, ready.loads⟩, ⟨dispatched, fun tag failed => ?_⟩, ?_, ?_, ?_, ready.search⟩
  · exact dispatched (execute_undispatchable roles world texts draws failed)
  · exact speaks_execute roles world texts draws fun _ _ _ command => ready.texts_ne_nil command
  · intro maxDistance minDistance command range
    refine ⟨Step.dynamicRange_drawable _ _, fun entity destination time requested => ?_⟩
    obtain ⟨given, found, means⟩ := request?_means roles world texts draws requested
    obtain ⟨anchor, center, target, place, rfl⟩ := means _ _ command
    have fromRow := ready.command
    rw [command] at fromRow
    obtain ⟨rfl, rfl, ordered⟩ := fromRow
    refine ⟨given, anchor, center, found, target, place, fun still => ?_, fun away => ⟨?_, ?_⟩⟩
    · simp [Step.dynamicPoint, still]
    · -- The smaller distance is smaller already, so that it is not cut down.
      have uncut : min row.datalong2 row.datalong = row.datalong2 := if_pos (ordered away)
      exact congrArg (fun least => (least.toFloat32, row.datalong.toFloat32)) uncut
    · exact Step.dynamicPoint_around ⟨instruction, given⟩ center row.datalong2 draws away
  · intro sender player template altSender delay requested
    obtain ⟨given, found, delay', command, rfl⟩ := request?_means roles world texts draws requested
    have fromRow := ready.command
    rw [command] at fromRow
    obtain ⟨rfl, late⟩ := fromRow
    have least : 0 ≤ row.dataint.toInt := Int32.le_iff_toInt_le.mp late
    have most := row.dataint.toInt_lt
    have short : row.dataint.toInt.toNat < UInt32.size := by
      show row.dataint.toInt.toNat < 4294967296
      omega
    rw [UInt32.toNat_ofNat_of_lt' short, Int.toNat_of_nonneg least]

def Row.moveDynamicRow : Row := { command := 37, datalong := 10, datalong2 := 3 }

def Row.sendMailRow : Row := { command := 38, datalong := 100, dataint := 3600 }

theorem Instruction.sendMail_execute_ready :
    let bare (command : Command) : Instruction := ⟨0, 0, command, {}, ⟨0, 0, .creature⟩, {}⟩
    let roles : Roles := ⟨some (.creature 20 1), some (.player 2)⟩
    let sent : Effect := .sendMail roles.source (.player 2) 100 0 3600
    Row.moveDynamicRow.decode {} = .ok (bare (.moveDynamic 10 3)) ∧
      Drawable (3 : UInt32).toFloat32 (10 : UInt32).toFloat32 ∧
      Row.sendMailRow.decode {} = .ok (bare (.sendMail 100 0 3600)) ∧
      (bare (.sendMail 100 0 3600)).request? roles {} {} default = some sent ∧
      ((3600 : UInt32).toNat : Int) = Row.sendMailRow.dataint.toInt := by
  intro bare roles sent
  have moveDynamicRow : Row.moveDynamicRow.decode {} = .ok (bare (.moveDynamic 10 3)) := rfl
  have mailDecoded : Row.sendMailRow.decode {} = .ok (bare (.sendMail 100 0 3600)) := rfl
  have mailed : (bare (.sendMail 100 0 3600)).request? roles {} {} default = some sent := rfl
  obtain ⟨_, _, _, moves, _⟩ := execute_ready moveDynamicRow roles {} {} default
  obtain ⟨_, _, _, _, mails, _⟩ := execute_ready mailDecoded roles {} {} default
  exact ⟨moveDynamicRow, (moves 10 3 rfl).1, mailDecoded, mailed, mails _ _ _ _ _ mailed⟩

end WorldScripts
