import WorldScripts.Proofs.Decode.Parts
import WorldScripts.Proofs.Step.Planning

/-!
Commands that may end their script. Whether a script ends is settled by the roles and by what its command
looks for. Its secondary effect comes after that and makes no difference. An additional row settles it the
other way round, wherever there is anything to look for.
-/

namespace WorldScripts

/-- Both fail for the same reason, or just one of them ends the script. -/
inductive Opposed : Except StepError Outcome → Except StepError Outcome → Prop
  | fails (error : StepError) : Opposed (.error error) (.error error)
  | first : Opposed (.ok .terminate) (.ok .proceed)
  | second : Opposed (.ok .proceed) (.ok .terminate)

def Outcome.ofEnds : Bool → Outcome
  | true => .terminate
  | false => .proceed

theorem opposed_not (ends? : Except StepError Bool) :
    Opposed (Outcome.ofEnds <$> ends?) (Outcome.ofEnds <$> (not <$> ends?)) := by
  cases ends? with
  | error error => exact .fails error
  | ok ends =>
      cases ends with
      | false => exact .second
      | true => exact .first

namespace Command

def mayEnd : Command → Bool
  | .terminateScript .. | .terminateOnCondition .. => true
  | _ => false

def endsAnyway : Command → Bool
  | .terminateScript creature .. => creature == 0
  | _ => false

def withSecondary (quest : UInt32) (shift : Int32) : Command → Command
  | .terminateScript creature searchDistance _ => .terminateScript creature searchDistance shift
  | .terminateOnCondition condition _ => .terminateOnCondition condition quest
  | command => command

theorem mayEnd_cases {command : Command} (may : command.mayEnd = true) :
    (∃ creature searchDistance shift, command = .terminateScript creature searchDistance shift) ∨
      ∃ condition quest, command = .terminateOnCondition condition quest := by
  cases command with
  | terminateScript creature searchDistance shift => exact .inl ⟨_, _, _, rfl⟩
  | terminateOnCondition condition quest => exact .inr ⟨_, _, rfl⟩
  | _ => cases may

end Command

namespace Step

def ends? (step : Step) (world : World) : Except StepError Bool :=
  match step.instruction.command with
  | .terminateScript creature searchDistance _ => step.searchEnds world creature searchDistance
  | .terminateOnCondition condition _ => .ok (world.conditionMet condition != step.additional)
  | _ => .ok false

/-- The plan is to end the script, or else to leave the world alone. -/
inductive EndsBy : Except StepError Bool → Except StepError Plan → Prop
  | fails (error : StepError) : EndsBy (.error error) (.error error)
  | stops (attempt : Option Attempt) : EndsBy (.ok true) (.ok (.stop attempt))
  | passes : EndsBy (.ok false) (.ok .pass)

variable {step other : Step} (world : World) {creature searchDistance condition : UInt32}
variable {quest : UInt32} {shift : Int32}

theorem ends?_search
    (command : step.instruction.command = .terminateScript creature searchDistance shift) :
    step.ends? world = step.searchEnds world creature searchDistance := by
  rw [ends?, command]

theorem ends?_condition (command : step.instruction.command = .terminateOnCondition condition quest) :
    step.ends? world = .ok (world.conditionMet condition != step.additional) := by
  rw [ends?, command]

theorem plan_endsBy (texts : Texts) (draws : Draws) (may : step.instruction.command.mayEnd = true) :
    EndsBy (step.ends? world) (step.plan world texts draws).1 := by
  rcases Command.mayEnd_cases may with ⟨creature, searchDistance, shift, command⟩ |
    ⟨condition, quest, command⟩
  · rw [ends?_search world command, plan, command]
    dsimp only
    unfold planTerminate
    cases step.searchEnds world creature searchDistance with
    | error error => exact .fails error
    | ok ends =>
        cases ends with
        | false => exact .passes
        | true => exact .stops _
  · rw [ends?_condition world command, plan, command]
    dsimp only
    unfold planTerminateOnCondition
    by_cases continues : world.conditionMet condition = step.additional
    · simp only [continues, bne_self_eq_false, beq_self_eq_true, if_true]
      exact .passes
    · have ends : (world.conditionMet condition != step.additional) = true := bne_iff_ne.mpr continues
      have differ : (world.conditionMet condition == step.additional) = false :=
        beq_eq_false_iff_ne.mpr continues
      rw [ends, differ]
      exact .stops _

-- The search is the same, and so is the reason when there is nobody to search.
theorem searchEnds_inverted (tag : other.tag = step.tag) (roles : other.roles = step.roles)
    (turned : other.additional = !step.additional) (looks : creature ≠ 0) :
    other.searchEnds world creature searchDistance =
      not <$> step.searchEnds world creature searchDistance := by
  unfold searchEnds
  rw [if_neg looks, if_neg looks, roles, tag, turned]
  cases step.roles.source.or step.roles.target with
  | none => rfl
  | some searcher =>
      have turns : ∀ found additional : Bool, (found == !additional) = !(found == additional) := by
        decide
      exact congrArg Except.ok (turns _ _)

end Step

namespace Instruction

def ends? (instruction : Instruction) (roles : Roles) (world : World) : Except StepError Bool := do
  let given ← instruction.resolve roles world
  Step.ends? ⟨instruction, given⟩ world

def inverted (instruction : Instruction) : Instruction :=
  { instruction with
    flags := { instruction.flags with additional := !instruction.flags.additional } }

def withSecondary (quest : UInt32) (shift : Int32) (instruction : Instruction) : Instruction :=
  { instruction with command := instruction.command.withSecondary quest shift }

variable {instruction : Instruction} (roles : Roles) (world : World)

theorem execute_ends (texts : Texts) (draws : Draws) (may : instruction.command.mayEnd = true) :
    let done := (instruction.execute roles world texts draws).1
    done.outcome = Outcome.ofEnds <$> instruction.ends? roles world ∧
      (done.outcome = .ok .proceed → done.world = world) := by
  obtain ⟨found, text, _, executed⟩ := instruction.execute_planned roles world texts draws
  dsimp only
  rw [executed]
  unfold planned ends?
  cases instruction.resolve roles world with
  | error error => exact ⟨rfl, fun proceeds => nomatch proceeds⟩
  | ok given =>
      have ends : Step.EndsBy (Step.ends? ⟨instruction, given⟩ world)
          (Step.plan ⟨instruction, given⟩ world texts draws).1 :=
        Step.plan_endsBy world texts draws may
      rw [ok_bind]
      dsimp only
      generalize Step.ends? ⟨instruction, given⟩ world = ends?,
        (Step.plan ⟨instruction, given⟩ world texts draws).1 = planned at ends
      cases ends with
      | fails error => exact ⟨rfl, fun proceeds => nomatch proceeds⟩
      | stops attempt => cases attempt <;> exact ⟨rfl, fun proceeds => nomatch proceeds⟩
      | passes => exact ⟨rfl, fun _ => rfl⟩

-- Where anything is looked for, the other reading of a row comes to the opposite.
theorem ends?_inverted (may : instruction.command.mayEnd = true)
    (looks : instruction.command.endsAnyway = false) :
    instruction.inverted.ends? roles world = not <$> instruction.ends? roles world := by
  have same : instruction.inverted.resolve roles world = instruction.resolve roles world := rfl
  unfold ends?
  rw [same]
  cases instruction.resolve roles world with
  | error error => rfl
  | ok given =>
      rw [ok_bind, ok_bind]
      rcases Command.mayEnd_cases may with ⟨creature, searchDistance, shift, command⟩ |
        ⟨condition, quest, command⟩
      · rw [command] at looks
        have looks : creature ≠ 0 := by simpa [Command.endsAnyway] using looks
        rw [Step.ends?_search world command, Step.ends?_search world command]
        exact Step.searchEnds_inverted world rfl rfl rfl looks
      · rw [Step.ends?_condition world command, Step.ends?_condition world command]
        exact congrArg Except.ok (Bool.bne_not _ _)

theorem ends?_anyway (anyway : instruction.command.endsAnyway = true) :
    instruction.ends? roles world = (fun _ => true) <$> instruction.resolve roles world := by
  unfold ends?
  cases instruction.resolve roles world with
  | error error => rfl
  | ok given =>
      rw [ok_bind]
      cases command : instruction.command with
      | terminateScript creature searchDistance shift =>
          rw [command] at anyway
          obtain rfl : creature = 0 := by simpa [Command.endsAnyway] using anyway
          rw [Step.ends?_search world command]
          rfl
      | _ =>
          rw [command] at anyway
          cases anyway

theorem ends?_withSecondary (quest : UInt32) (shift : Int32) :
    (instruction.withSecondary quest shift).ends? roles world = instruction.ends? roles world := by
  obtain ⟨key, delay, command, position, buddy, flags⟩ := instruction
  cases command <;> rfl

end Instruction

namespace Row

/-- The row with the flag for an additional meaning turned over. -/
def inverted (row : Row) : Row :=
  { row with dataFlags := row.dataFlags ^^^ 0x08 }

def withSecondary (row : Row) (quest : UInt32) (shift : Int32) : Row :=
  if row.command = 34 then { row with datalong2 := quest } else { row with dataint := shift }

theorem ofByte?_inverted (byte : UInt8) : RowFlags.ofByte? (byte ^^^ 0x08) =
    (RowFlags.ofByte? byte).map fun flags => { flags with additional := !flags.additional } := by
  have all : ∀ n : Fin 256, RowFlags.ofByte? (.ofNat n ^^^ 0x08) =
      (RowFlags.ofByte? (.ofNat n)).map fun flags =>
        { flags with additional := !flags.additional } := by
    decide +kernel
  have here := all ⟨byte.toNat, byte.toNat_lt⟩
  rwa [UInt8.ofNat_toNat] at here

variable {row : Row} {options : DecodeOptions} {instruction : Instruction}

theorem tag_of_parts (parts : instruction.PartsOf row options) {tag : Tag}
    (number : row.command.toNat = tag.number) : instruction.tag = tag :=
  Tag.number_inj (((Tag.ofNumber?_eq_some _ _).mp parts.tag).trans number)

theorem terminateScript_of_parts (parts : instruction.PartsOf row options)
    (script : row.command = 31) :
    instruction.command = .terminateScript row.datalong row.datalong2 row.dataint := by
  have values := parts.values
  have named : instruction.tag = .terminateScript := tag_of_parts parts (by rw [script]; rfl)
  rw [named] at values
  have read := Option.some.inj values
  split at read
  · cases read
  · exact (Except.ok.inj read).symm

theorem terminateCond_of_parts (parts : instruction.PartsOf row options)
    (condition : row.command = 34) :
    instruction.command = .terminateOnCondition row.datalong row.datalong2 := by
  have values := parts.values
  have named : instruction.tag = .terminateCond := tag_of_parts parts (by rw [condition]; rfl)
  rw [named] at values
  have read := Option.some.inj values
  unfold nonzero at read
  split at read
  · cases read
  · exact (Except.ok.inj read).symm

theorem mayEnd_of_parts (parts : instruction.PartsOf row options)
    (ends : row.command = 31 ∨ row.command = 34) : instruction.command.mayEnd = true := by
  rcases ends with script | condition
  · rw [terminateScript_of_parts parts script]
    rfl
  · rw [terminateCond_of_parts parts condition]
    rfl

theorem inverted_parts (parts : instruction.PartsOf row options)
    (may : instruction.command.mayEnd = true) :
    instruction.inverted.PartsOf row.inverted options := by
  obtain ⟨key, delay, command, position, buddy, flags⟩ := instruction
  have read : RowFlags.ofByte? row.inverted.dataFlags =
      some { flags with additional := !flags.additional } := by
    rw [inverted, ofByte?_inverted, parts.flags]
    rfl
  cases command with
  | terminateScript | terminateOnCondition =>
      exact ⟨parts.tag, rfl, read, fun _ => rfl, parts.buddy, parts.values, parts.key, parts.delay,
        parts.position⟩
  | _ => cases may

theorem withSecondary_parts (parts : instruction.PartsOf row options)
    (ends : row.command = 31 ∨ row.command = 34) (quest : UInt32) (shift : Int32) :
    (instruction.withSecondary quest shift).PartsOf (row.withSecondary quest shift) options := by
  obtain ⟨key, delay, command, position, buddy, flags⟩ := instruction
  rcases ends with script | condition
  · obtain rfl : command = _ := terminateScript_of_parts parts script
    have other : row.withSecondary quest shift = { row with dataint := shift } := by
      rw [withSecondary, script]
      rfl
    have values : ({ row with dataint := shift } : Row).decodeValues? flags .terminateScript =
        some (.ok (.terminateScript row.datalong row.datalong2 shift)) := by
      have read := Option.some.inj parts.values
      split at read
      · cases read
      · rename_i sound
        exact congrArg some (if_neg sound)
    rw [other]
    exact ⟨parts.tag, rfl, parts.flags, fun _ => rfl, parts.buddy, values, parts.key, parts.delay,
      parts.position⟩
  · obtain rfl : command = _ := terminateCond_of_parts parts condition
    have other : row.withSecondary quest shift = { row with datalong2 := quest } := if_pos condition
    have values : ({ row with datalong2 := quest } : Row).decodeValues? flags .terminateCond =
        some (.ok (.terminateOnCondition row.datalong quest)) := by
      have read := Option.some.inj parts.values
      unfold nonzero at read
      split at read
      · cases read
      · rename_i sound
        simp only [decodeValues?, nonzero, if_neg sound, ok_bind]
    rw [other]
    exact ⟨parts.tag, rfl, parts.flags, fun _ => rfl, parts.buddy, values, parts.key, parts.delay,
      parts.position⟩

/-- Whatever the secondary effect is, and whatever comes of it, the outcome is the same; and a script that
goes on has left the world alone. -/
def IgnoresSecondary (row : Row) (options : DecodeOptions) (roles : Roles) (world : World) (texts : Texts)
    (draws : Draws) (done : Execution) : Prop :=
  (∀ quest shift, ∃ varied, (row.withSecondary quest shift).decode options = .ok varied ∧
    (varied.execute roles world texts draws).1.outcome = done.outcome) ∧
  (done.outcome = .ok .proceed → done.world = world)

theorem ignoresSecondary_of_parts (parts : instruction.PartsOf row options)
    (ends : row.command = 31 ∨ row.command = 34) (roles : Roles) (world : World) (texts : Texts)
    (draws : Draws) :
    row.IgnoresSecondary options roles world texts draws (instruction.execute roles world texts draws).1 := by
  obtain ⟨outcome, idle⟩ :=
    Instruction.execute_ends roles world texts draws (mayEnd_of_parts parts ends)
  refine ⟨fun quest shift => ?_, idle⟩
  have varied := withSecondary_parts parts ends quest shift
  have same : row.command = (row.withSecondary quest shift).command := by
    unfold withSecondary
    split <;> rfl
  obtain ⟨outcome', _⟩ :=
    Instruction.execute_ends roles world texts draws (mayEnd_of_parts varied (same ▸ ends))
  refine ⟨instruction.withSecondary quest shift, decode_of_parts varied, ?_⟩
  rw [outcome, outcome', Instruction.ends?_withSecondary]

end Row

namespace Instruction

/-- Two rows that differ in the additional flag only are opposed to each other: they fail for the same
reason, or one of them ends the script and the other one does not. Without a creature to look for both
end it. The secondary effect makes no difference, and the script only goes on in a world that was left
alone. -/
theorem execute_inverted {row : Row} {options : DecodeOptions} {plain turned : Instruction}
    (ends : row.command = 31 ∨ row.command = 34) (read : row.decode options = .ok plain)
    (readTurned : row.inverted.decode options = .ok turned) (roles : Roles) (world : World)
    (texts texts' : Texts) (draws draws' : Draws) :
    let one := (plain.execute roles world texts draws).1
    let other := (turned.execute roles world texts' draws').1
    (row.command = 34 ∨ row.datalong ≠ 0 → Opposed one.outcome other.outcome) ∧
      (row.command = 31 ∧ row.datalong = 0 →
        turned.resolve roles world = plain.resolve roles world ∧
        ∀ given, plain.resolve roles world = .ok given →
          one.outcome = .ok .terminate ∧ other.outcome = .ok .terminate) ∧
      row.IgnoresSecondary options roles world texts draws one ∧
      row.inverted.IgnoresSecondary options roles world texts' draws' other := by
  have parts := Row.decode_eq_ok.mp read
  have may := Row.mayEnd_of_parts parts ends
  have inverted := Row.inverted_parts parts may
  have may' : plain.inverted.command.mayEnd = true := may
  obtain rfl : plain.inverted = turned :=
    Except.ok.inj ((Row.decode_of_parts inverted).symm.trans readTurned)
  intro one other
  have first : one.outcome = Outcome.ofEnds <$> plain.ends? roles world :=
    (execute_ends roles world texts draws may).1
  have second : other.outcome = Outcome.ofEnds <$> plain.inverted.ends? roles world :=
    (execute_ends roles world texts' draws' may').1
  refine ⟨fun looks => ?_, fun anyway => ⟨rfl, fun given found => ?_⟩,
    Row.ignoresSecondary_of_parts parts ends roles world texts draws,
    Row.ignoresSecondary_of_parts inverted ends roles world texts' draws'⟩
  · have looks : plain.command.endsAnyway = false := by
      rcases ends with script | condition
      · rw [Row.terminateScript_of_parts parts script]
        simpa [Command.endsAnyway, script] using looks
      · rw [Row.terminateCond_of_parts parts condition]
        rfl
    rw [first, second, ends?_inverted roles world may looks]
    exact opposed_not _
  · have always : plain.command.endsAnyway = true := by
      rw [Row.terminateScript_of_parts parts anyway.1, anyway.2]
      rfl
    have same : plain.inverted.resolve roles world = plain.resolve roles world := rfl
    have alike : plain.inverted.ends? roles world = (fun _ => true) <$> plain.resolve roles world :=
      same ▸ ends?_anyway roles world always
    rw [first, second, alike, ends?_anyway roles world always, found]
    exact ⟨rfl, rfl⟩

-- The script ends while there is a creature near, and then the source is to wait.
def terminateNearRow : Row :=
  { command := 31, datalong := 500, datalong2 := 20, dataint := 3000, dataFlags := 0x08 }

def terminateNear : Instruction where
  key := 0
  delay := 0
  command := .terminateScript 500 20 3000
  position := {}
  buddy := ⟨0, 0, .creature⟩
  flags := { additional := true }

def creatureNearby : World :=
  (({} : World).spawn .player 0 {}).spawn .creature 500 { x := 12 }

-- The source is a player, who cannot be made to wait, but the script ends.
theorem terminateNear_inverted :
    let roles : Roles := ⟨some (.player 1), none⟩
    let done := (terminateNear.execute roles creatureNearby {} default).1
    let turned := (terminateNear.inverted.execute roles creatureNearby {} default).1
    terminateNearRow.decode {} = .ok terminateNear ∧
      terminateNearRow.inverted.decode {} = .ok terminateNear.inverted ∧
      Opposed done.outcome turned.outcome ∧ done.outcome = .ok .terminate ∧
      turned.world = creatureNearby := by
  intro roles done turned
  have read : terminateNearRow.decode {} = .ok terminateNear := by decide +kernel
  have readTurned : terminateNearRow.inverted.decode {} = .ok terminateNear.inverted := by
    decide +kernel
  obtain ⟨opposed, _, _, _, idle⟩ :=
    execute_inverted (.inl rfl) read readTurned roles creatureNearby {} {} default default
  have ended : done.outcome = .ok .terminate := by decide +kernel
  have goes : turned.outcome = .ok .proceed := by decide +kernel
  exact ⟨read, readTurned, opposed (.inr (by decide)), ended, idle goes⟩

end Instruction

end WorldScripts
