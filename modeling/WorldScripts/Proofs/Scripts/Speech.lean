import WorldScripts.Proofs.Scripts.Building
import WorldScripts.Proofs.Step.Failing
import WorldScripts.Proofs.Texts.Contents
import WorldScripts.Proofs.World.Acceptance

/-!
The texts that the scripts of a table speak. Before anything is run, a check goes through all commands
and lists the texts that are not there; when a command is run, it draws one of its own texts. What can
be missing then is what was listed before.
-/

namespace WorldScripts

theorem Command.mem_texts {command : Command} {id : Int32} :
    id ∈ command.texts ↔
      id ≠ 0 ∧ ∃ chat language columns, command = .talk chat language columns ∧ id ∈ columns := by
  cases command with
  | talk chat language columns => simp [texts, and_comm]
  | _ => simp [texts]

theorem Instruction.Ready.mem_texts {instruction : Instruction} {row : Row}
    (ready : instruction.Ready row) {id : Int32} (named : id ∈ instruction.command.texts) :
    id ∈ row.texts := by
  obtain ⟨_, _, _, columns, command, column⟩ := Command.mem_texts.mp named
  have fromRow := ready.command
  rw [command] at fromRow
  obtain ⟨rfl, _⟩ := fromRow
  exact column

namespace Instruction

variable {instruction : Instruction} {id : Int32} (roles : Roles) (world : World) (texts : Texts)
variable (draws : Draws)

theorem execute_missingText
    (failed : (instruction.execute roles world texts draws).1.outcome = .error (.missingText id)) :
    id ∈ instruction.command.texts ∧ texts.contains id = false := by
  rcases execute_error roles world texts draws failed with unplanned | ⟨refusal, ⟨⟩⟩
  rcases planned_error roles world texts draws unplanned with absence | ⟨_, ⟨⟩⟩ |
    ⟨_, _, _, _, ⟨_, _, ⟨⟩⟩ | ⟨_, member, lost, ⟨⟩⟩⟩
  · exact absurd absence Bool.false_ne_true
  · exact ⟨member, lost⟩

theorem request?_talk {chat : ChatType} {language : UInt32} {columns : Vector Int32 4} {effect : Effect}
    (command : instruction.command = .talk chat language columns)
    (requested : instruction.request? roles world texts draws = some effect) :
    ∃ speaker target, ∃ id ∈ instruction.command.texts, texts.contains id = true ∧
      effect = .say speaker target id chat language := by
  have spoken := planned_spoken roles world texts draws command
  unfold request? at requested
  cases made : instruction.planned roles world texts draws with
  | error error =>
      rw [made] at requested
      cases requested
  | ok plan =>
      rw [made] at requested spoken
      cases spoken with
      | known speaker target member held =>
          cases requested
          exact ⟨speaker, target, _, member, held, rfl⟩

theorem effects_talk {chat : ChatType} {language : UInt32} {columns : Vector Int32 4}
    (command : instruction.command = .talk chat language columns) :
    let done := (instruction.execute roles world texts draws).1
    done.world.effects = world.effects ∨ ∃ speaker target, ∃ id ∈ instruction.command.texts,
      texts.contains id = true ∧
        done.world.effects = world.effects ++ [.say speaker target id chat language] := by
  intro done
  have offered : done.world = world.offered (instruction.request? roles world texts draws) :=
    instruction.execute_world roles world texts draws
  rw [offered]
  cases requested : instruction.request? roles world texts draws with
  | none => exact .inl rfl
  | some effect =>
      obtain ⟨speaker, target, id, member, held, rfl⟩ :=
        request?_talk roles world texts draws command requested
      unfold World.offered
      rcases world.apply_cases (.say speaker target id chat language) with
        ⟨refusal, _, applied⟩ | ⟨_, applied⟩
      · exact .inl (by simp only [applied])
      · refine .inr ⟨speaker, target, id, member, held, ?_⟩
        simp only [applied]
        exact World.effects_apply applied

end Instruction

namespace Scripts

variable (rows : List Row) (table : ScriptTable) (options : DecodeOptions)

theorem mem_commands_ofRows {instruction : Instruction} :
    instruction ∈ (ofRows rows table options).value.1.commands ↔
      ∃ row ∈ rows, row.decode options = .ok instruction := by
  rw [(ofRows_accounts rows options table).commands.mem_iff, decodeRows, List.mem_filterMap]
  refine exists_congr fun row => and_congr_right fun _ => ?_
  cases row.decode options <;> simp [Except.toOption]

theorem mem_commands_of_lookup {key : UInt32} {instruction : Instruction}
    (member : instruction ∈ (ofRows rows table options).value.1.lookup key) :
    instruction ∈ (ofRows rows table options).value.1.commands := by
  rw [lookup_ofRows, ← filter_decodeRows] at member
  exact (ofRows_accounts rows options table).commands.mem_iff.mpr (List.mem_of_mem_filter member)

theorem mem_checkTexts (scripts : Scripts) (texts : Texts) {id : Int32} :
    id ∈ (scripts.checkTexts table texts).value ↔
      texts.contains id = false ∧
        ∃ instruction ∈ scripts.commands, id ∈ instruction.command.texts := by
  rw [and_comm]
  exact (texts.mem_missing _).trans (and_congr_left fun _ => List.mem_flatMap)

theorem mem_checkTexts_of_failed {scripts : Scripts} {instruction : Instruction}
    (member : instruction ∈ scripts.commands) {texts : Texts} {roles : Roles} {world : World}
    {draws : Draws} {id : Int32}
    (failed : (instruction.execute roles world texts draws).1.outcome = .error (.missingText id)) :
    id ∈ (scripts.checkTexts table texts).value := by
  obtain ⟨named, lost⟩ := Instruction.execute_missingText roles world texts draws failed
  exact (mem_checkTexts table scripts texts).mpr ⟨lost, instruction, member, named⟩

/-- The check of a table finds just the texts that its commands name and that are not there, each of them
once. It is those that a command of the table may fail for, and then it is one in the columns of its own
row; what is said instead is there and comes from these columns as well. So if nothing is missing, no
script of the table ever fails for a text. -/
theorem checkTexts_sound (textRows : List TextRow) :
    let scripts := (ofRows rows table options).value.1
    let texts := (Texts.ofRows textRows).value
    let missing := (scripts.checkTexts table texts).value
    (∀ instruction, instruction ∈ scripts.commands ↔
        ∃ row ∈ rows, row.decode options = .ok instruction) ∧
      (∀ id, texts.contains id = true ↔
        ∃ row ∈ textRows, row.entry = id ∧ row.text?.isSome = true) ∧
      missing.Pairwise (· < ·) ∧
      (∀ id, id ∈ missing ↔ id ≠ 0 ∧ texts.contains id = false ∧
        ∃ instruction ∈ scripts.commands, ∃ chat language columns,
          instruction.command = .talk chat language columns ∧ id ∈ columns) ∧
      (∀ row ∈ rows, ∀ instruction, row.decode options = .ok instruction → instruction.tag = .talk →
        ∀ roles world draws,
          let done := (instruction.execute roles world texts draws).1
          (∀ id, done.outcome = .error (.missingText id) → id ∈ missing ∧ id ∈ row.texts) ∧
            (done.world.effects = world.effects ∨ ∃ speaker target id chat language,
              done.world.effects = world.effects ++ [.say speaker target id chat language] ∧
                id ∈ row.texts ∧ texts.contains id = true)) ∧
      (missing = [] → ∀ key, ∀ instruction ∈ scripts.lookup key, ∀ roles world draws id,
        (instruction.execute roles world texts draws).1.outcome ≠ .error (.missingText id)) := by
  intro scripts texts missing
  refine ⟨fun _ => mem_commands_ofRows rows table options,
    fun id => Texts.contains_ofRows id textRows, Texts.missing_ascending _ _, ?_, ?_, ?_⟩
  · intro id
    rw [mem_checkTexts]
    simp only [Command.mem_texts]
    constructor
    · rintro ⟨lost, instruction, member, filled, column⟩
      exact ⟨filled, lost, instruction, member, column⟩
    · rintro ⟨filled, lost, instruction, member, column⟩
      exact ⟨lost, instruction, member, filled, column⟩
  · intro row inside instruction read talks roles world draws done
    have ready := row.decode_yields options instruction read
    obtain ⟨chat, language, columns, command⟩ := Command.eq_talk talks
    constructor
    · intro id failed
      have member := (mem_commands_ofRows rows table options).mpr ⟨row, inside, read⟩
      obtain ⟨named, _⟩ := Instruction.execute_missingText roles world texts draws failed
      exact ⟨mem_checkTexts_of_failed table member failed, ready.mem_texts named⟩
    · rcases Instruction.effects_talk roles world texts draws command with
        same | ⟨speaker, target, id, named, held, said⟩
      · exact .inl same
      · exact .inr ⟨speaker, target, id, chat, language, said, ready.mem_texts named, held⟩
  · intro complete key instruction under roles world draws id failed
    have member := mem_commands_of_lookup rows table options under
    have found : id ∈ missing := mem_checkTexts_of_failed table member failed
    rw [complete] at found
    exact List.not_mem_nil found

end Scripts

end WorldScripts
