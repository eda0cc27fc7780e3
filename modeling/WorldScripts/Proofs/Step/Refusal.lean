import WorldScripts.Decode
import WorldScripts.Proofs.Step.Confinement

/-!
What the world has against commands. The roles of a command are checked before anything is asked, so
there is little left to refuse: an entity may be missing, and a spell may fail. The two commands that
respawn a creature or change its template are the exception. They accept pets, and the world does not.
Besides, the roles are known by guid, while the world looks at the entity: one that stands under a guid
other than its own may be of another kind than its role.
-/

namespace WorldScripts

-- What a command has done that takes pets for creatures.
def Tag.creatureDeed? : Tag → Option Deed
  | .respawn => some .respawnAsCreature
  | .updateTemplate => some .changeTemplate
  | _ => none

/-- What is wrong is as the refusal says. -/
def EffectError.Holds (refusal : EffectError) (world : World) : Prop :=
  match refusal with
  | .entityNotFound guid => world.entity? guid = none
  | .spellFailed spell => spell ∈ world.failingSpells
  | .unsupported guid deed =>
      ∃ entity, world.entity? guid = some entity ∧ entity.guid.kind ≠ deed.kind

/-- Nobody but the entity with that guid stands under it. -/
def World.Owns (world : World) (guid : Guid) : Prop :=
  ∀ entity, world.entity? guid = some entity → entity.guid = guid

-- Respawning and changing the template are the only deeds for which being well-kinded is not enough.
theorem Effect.WellKinded.need {effect : Effect} (kinds : effect.WellKinded) {need : Need}
    (needed : need ∈ effect.needs) {deed : Deed} (asked : need.deed = some deed) :
    need.guid.kind = deed.kind ∨ need.guid.IsCreature ∧
      ∃ tag, effect.creatureOnly? = some (tag, need.guid) ∧ tag.creatureDeed? = some deed := by
  cases effect with
  | respawn | updateTemplate =>
      cases List.mem_singleton.mp needed
      cases asked
      exact .inr ⟨kinds, _, rfl, rfl⟩
  | castSpell =>
      -- The only effect with two needs, and neither is about a deed.
      simp only [needs, List.mem_cons, List.not_mem_nil, or_false] at needed
      rcases needed with rfl | rfl <;> cases asked
  | activateObject =>
      cases List.mem_singleton.mp needed
      cases asked
      exact .inl kinds.1
  | _ =>
      cases List.mem_singleton.mp needed
      cases asked <;> exact .inl kinds

namespace World

variable {world : World} {effect : Effect} {refusal : EffectError} {guid : Guid} {deed : Deed}

theorem refuses?_cases {need : Need} (refused : world.refuses? need = some refusal) :
    refusal = .entityNotFound need.guid ∧ world.entity? need.guid = none ∨
      ∃ deed entity, need.deed = some deed ∧ refusal = .unsupported need.guid deed ∧
        world.entity? need.guid = some entity ∧ entity.guid.kind ≠ deed.kind := by
  unfold refuses? at refused
  cases found : world.entity? need.guid with
  | none =>
      rw [found] at refused
      cases refused
      exact .inl ⟨rfl, rfl⟩
  | some entity =>
      simp only [found, Option.bind_eq_some_iff] at refused
      obtain ⟨deed, asked, refused⟩ := refused
      split at refused
      · cases refused
      · rename_i unable
        cases refused
        exact .inr ⟨deed, entity, asked, rfl, rfl, unable⟩

theorem failure?_eq_some (failed : world.failure? effect = some refusal) :
    ∃ spell ∈ world.failingSpells, refusal = .spellFailed spell := by
  unfold failure? at failed
  split at failed
  · split at failed
    · rename_i listed
      cases failed
      exact ⟨_, List.contains_iff_mem.mp listed, rfl⟩
    · cases failed
  · cases failed

theorem refusal?_cases (refused : world.refusal? effect = some refusal) :
    (∃ need ∈ effect.needs, world.refuses? need = some refusal) ∨
      ∃ spell ∈ world.failingSpells, refusal = .spellFailed spell := by
  rw [refusal?, Option.or_eq_some_iff] at refused
  rcases refused with unmet | ⟨_, failed⟩
  · exact .inl (List.exists_of_findSome?_eq_some unmet)
  · exact .inr (failure?_eq_some failed)

theorem refusal?_holds (refused : world.refusal? effect = some refusal) : refusal.Holds world := by
  rcases refusal?_cases refused with ⟨need, _, unmet⟩ | ⟨spell, listed, rfl⟩
  · rcases refuses?_cases unmet with ⟨rfl, absent⟩ | ⟨deed, entity, _, rfl, there, unable⟩
    · exact absent
    · exact ⟨entity, there, unable⟩
  · exact listed

-- Of the well-kinded effects, only those that respawn a pet or change its template are more than the
-- world allows, as long as the entity stands under its own guid.
theorem refusal?_unsupported (kinds : effect.WellKinded) (owns : world.Owns guid) :
    world.refusal? effect = some (.unsupported guid deed) ↔
      guid.kind = .pet ∧ (world.entity? guid).isSome ∧
        ∃ tag, effect.creatureOnly? = some (tag, guid) ∧ tag.creatureDeed? = some deed := by
  constructor
  · intro refused
    rcases refusal?_cases refused with ⟨need, member, unmet⟩ | ⟨_, _, ⟨⟩⟩
    rcases refuses?_cases unmet with ⟨⟨⟩, _⟩ | ⟨deed, entity, asked, ⟨⟩, there, unable⟩
    rw [owns entity there] at unable
    have present : (world.entity? need.guid).isSome = true := by rw [there]; rfl
    rcases kinds.need member asked with able | ⟨creature, tag, named, restricted⟩
    · exact absurd able unable
    · -- Both deeds are for creatures, so that only a pet is unable.
      refine ⟨creature.resolve_left fun other => unable ?_, present, tag, named, restricted⟩
      rw [other]
      cases tag <;> cases restricted <;> rfl
  · rintro ⟨pet, present, tag, named, restricted⟩
    obtain ⟨entity, there⟩ := Option.isSome_iff_exists.mp present
    have pet : entity.guid.kind = .pet := by rw [owns entity there, pet]
    cases effect <;> cases named <;> cases restricted <;>
      simp [refusal?, Effect.needs, refuses?, there, pet, Deed.kind]

theorem level_news {line : LogLine} (member : line ∈ world.news effect) : line.level = .debug := by
  unfold news at member
  split at member
  · rw [List.mem_singleton.mp member]
    rfl
  · obtain ⟨_, _, rfl⟩ := List.mem_map.mp member
    rfl
  · cases member

end World

theorem Command.of_creatureDeed {command : Command} {deed : Deed}
    (restricted : command.tag.creatureDeed? = some deed) :
    command = .respawn ∨ ∃ entry team, command = .updateTemplate entry team := by
  unfold tag at restricted
  split at restricted <;> simp_all [Tag.creatureDeed?]

theorem Step.plan_creatureDeed (step : Step) (world : World) (texts : Texts) (draws : Draws)
    {guid : Guid} {deed : Deed} (restricted : step.tag.creatureDeed? = some deed)
    (source : step.roles.source = some guid) (creature : guid.IsCreature) :
    ∃ effect, (step.plan world texts draws).1 = .ok (.act effect) ∧
      effect.creatureOnly? = some (step.tag, guid) := by
  have admitted : step.source .creature = .ok guid := by
    simp [Step.source, require, source, creature]
  unfold plan Step.tag Instruction.tag
  rcases Command.of_creatureDeed restricted with command | ⟨entry, team, command⟩ <;>
    rw [command] <;> exact ⟨_, by simp only [admitted]; rfl, rfl⟩

-- What went wrong with an attempt.
def Attempt.FailsWith (attempt : Attempt) (world : World) (error : StepError) : Prop :=
  attempt.effect = .error error ∨ ∃ effect refusal, attempt.effect = .ok effect ∧
    (world.apply effect).1 = .error refusal ∧ error = .refused refusal

theorem Attempt.of_warning {attempt : Attempt} {tag : Tag} {world : World} {line : LogLine}
    (member : line ∈ (attempt.carryOut tag world).2) (warning : line.level = .warn) :
    ∃ error, line = tag.complaint attempt.failure error ∧ attempt.FailsWith world error := by
  unfold carryOut at member
  cases made : attempt.effect with
  | error error =>
      rw [made] at member
      exact ⟨error, List.mem_singleton.mp member, .inl made⟩
  | ok effect =>
      simp only [made] at member
      rcases world.apply_cases effect with ⟨refusal, refused, applied⟩ | ⟨_, applied⟩
      · simp only [applied] at member
        exact ⟨.refused refusal, List.mem_singleton.mp member,
          .inr ⟨effect, refusal, made, World.refuses_iff.mpr refused, rfl⟩⟩
      · simp only [applied] at member
        rw [World.level_news member] at warning
        cases warning

-- Nothing but a secondary effect is warned of.
theorem Plan.of_warning {plan : Plan} {tag : Tag} {text : String} {world : World} {line : LogLine}
    (member : line ∈ (plan.carryOut tag text world).log) (warning : line.level = .warn) :
    ∃ attempt error, plan = .stop (some attempt) ∧
      line = tag.complaint attempt.failure error ∧ attempt.FailsWith world error := by
  have reported : line ≠ tag.report text := by
    rintro rfl
    cases warning
  cases plan with
  | pass => exact absurd (List.mem_singleton.mp member) reported
  | act effect =>
      simp only [carryOut] at member
      rcases world.apply_cases effect with ⟨refusal, _, applied⟩ | ⟨_, applied⟩
      · simp only [applied] at member
        cases member
      · simp only [applied] at member
        rcases List.mem_append.mp member with news | report
        · rw [World.level_news news] at warning
          cases warning
        · exact absurd (List.mem_singleton.mp report) reported
  | stop attempt? =>
      cases attempt? with
      | none => exact absurd (List.mem_singleton.mp member) reported
      | some attempt =>
          rcases List.mem_append.mp member with attempted | report
          · obtain ⟨error, complaint, failed⟩ := attempt.of_warning attempted warning
            exact ⟨attempt, error, rfl, complaint, failed⟩
          · exact absurd (List.mem_singleton.mp report) reported

namespace Instruction

section

variable (instruction : Instruction) (roles : Roles) (world : World) (texts : Texts)
variable (draws : Draws)

-- What only a creature can have done to it is never a secondary effect.
theorem creatureDeed_planned {given : Roles} {guid : Guid} {deed : Deed}
    (found : instruction.resolve roles world = .ok given)
    (restricted : instruction.tag.creatureDeed? = some deed) (source : given.source = some guid)
    (creature : guid.IsCreature) :
    ∃ effect, instruction.planned roles world texts draws = .ok (.act effect) ∧
      effect.WellKinded ∧ effect.creatureOnly? = some (instruction.tag, guid) := by
  obtain ⟨effect, made, named⟩ :=
    Step.plan_creatureDeed ⟨instruction, given⟩ world texts draws restricted source creature
  have planned : instruction.planned roles world texts draws = .ok (.act effect) := by
    rw [planned, found]
    exact made
  obtain ⟨_, _, confines⟩ := instruction.request_confines roles world texts draws
    (instruction.request?_of_planned roles world texts draws planned)
  exact ⟨effect, planned, confines.kinds, named⟩

theorem execute_unsupported {guid : Guid} {deed : Deed} (owns : world.Owns guid) :
    (instruction.execute roles world texts draws).1.outcome =
        .error (.refused (.unsupported guid deed)) ↔
      ∃ given, instruction.resolve roles world = .ok given ∧ given.source = some guid ∧
        guid.kind = .pet ∧ (world.entity? guid).isSome ∧ instruction.tag.creatureDeed? = some deed := by
  rw [execute_refused]
  constructor
  · rintro ⟨effect, planned, refused⟩
    obtain ⟨given, found, confines⟩ := instruction.request_confines roles world texts draws
      (instruction.request?_of_planned roles world texts draws planned)
    obtain ⟨pet, present, tag, named, restricted⟩ :=
      (World.refusal?_unsupported confines.kinds owns).mp refused
    obtain ⟨rfl, source⟩ := confines.onlyCreature tag guid named
    exact ⟨given, found, source, pet, present, restricted⟩
  · rintro ⟨given, found, source, pet, present, restricted⟩
    obtain ⟨effect, planned, kinds, named⟩ :=
      instruction.creatureDeed_planned roles world texts draws found restricted source (.inr pet)
    exact ⟨effect, planned,
      (World.refusal?_unsupported kinds owns).mpr ⟨pet, present, instruction.tag, named, restricted⟩⟩

theorem of_warning {line : LogLine}
    (member : line ∈ (instruction.execute roles world texts draws).1.log)
    (warning : line.level = .warn) :
    ∃ attempt error,
      instruction.planned roles world texts draws = .ok (.stop (some attempt)) ∧
        line = instruction.tag.complaint attempt.failure error ∧ attempt.FailsWith world error := by
  obtain ⟨found, text, searched, executed⟩ := instruction.execute_planned roles world texts draws
  have unrelated : line ∉ found := by
    intro lookup
    rw [searched line lookup] at warning
    cases warning
  rw [executed] at member
  cases planned : instruction.planned roles world texts draws with
  | error error =>
      rw [planned] at member
      exact absurd member unrelated
  | ok plan =>
      rw [planned] at member
      obtain ⟨attempt, error, rfl, complaint, failed⟩ :=
        plan.of_warning ((List.mem_append.mp member).resolve_left unrelated) warning
      exact ⟨attempt, error, rfl, complaint, failed⟩

theorem refused_attempt {attempt : Attempt} {refusal : EffectError}
    (planned : instruction.planned roles world texts draws = .ok (.stop (some attempt)))
    (failed : attempt.FailsWith world (.refused refusal)) :
    ∃ given effect, instruction.resolve roles world = .ok given ∧
      Step.Confines ⟨instruction, given⟩ world effect ∧ world.refusal? effect = some refusal := by
  have settled := instruction.planned_confined roles world texts draws
  rw [planned] at settled
  obtain ⟨given, found, confined⟩ := settled
  have settled : Settles attempt.effect (Step.Confines ⟨instruction, given⟩ world) := confined
  rcases failed with missing | ⟨effect, _, made, refused, ⟨⟩⟩
  · rw [missing] at settled
    cases settled
  · rw [made] at settled
    exact ⟨given, effect, found, settled, World.refuses_iff.mp refused⟩

-- A secondary effect is supported by whoever stands under their own guid.
theorem attempt_supported {attempt : Attempt} {guid : Guid} {deed : Deed}
    (planned : instruction.planned roles world texts draws = .ok (.stop (some attempt)))
    (owns : world.Owns guid) :
    ¬ attempt.FailsWith world (.refused (.unsupported guid deed)) := by
  intro failed
  obtain ⟨given, effect, found, confines, refused⟩ :=
    instruction.refused_attempt roles world texts draws planned failed
  obtain ⟨pet, _, tag, named, restricted⟩ :=
    (World.refusal?_unsupported confines.kinds owns).mp refused
  obtain ⟨rfl, source⟩ := confines.onlyCreature tag guid named
  obtain ⟨_, earnest, _⟩ :=
    instruction.creatureDeed_planned roles world texts draws found restricted source (.inr pet)
  rw [planned] at earnest
  cases earnest

end

/-- Whatever the world has against a command or its secondary effect is so. An entity that stands under
its own guid is found incapable just when it is a pet that a command is to respawn or to give another
template, and never by a secondary effect. -/
theorem execute_refusals (instruction : Instruction) (roles : Roles) (world : World) (texts : Texts)
    (draws : Draws) :
    let done := (instruction.execute roles world texts draws).1
    (∀ refusal, done.outcome = .error (.refused refusal) → refusal.Holds world) ∧
      (∀ line ∈ done.log, line.level = .warn → ∃ attempt error,
        instruction.planned roles world texts draws = .ok (.stop (some attempt)) ∧
          line = instruction.tag.complaint attempt.failure error ∧ attempt.FailsWith world error ∧
          ∀ refusal, error = .refused refusal → refusal.Holds world ∧
            ∀ guid deed, world.Owns guid → refusal ≠ .unsupported guid deed) ∧
      ∀ guid deed, world.Owns guid →
        (done.outcome = .error (.refused (.unsupported guid deed)) ↔
          ∃ given, instruction.resolve roles world = .ok given ∧ given.source = some guid ∧
            guid.kind = .pet ∧ (world.entity? guid).isSome ∧
            instruction.tag.creatureDeed? = some deed) := by
  refine ⟨?_, ?_, fun guid deed owns => instruction.execute_unsupported roles world texts draws owns⟩
  · intro refusal failed
    obtain ⟨effect, _, refused⟩ := (instruction.execute_refused roles world texts draws).mp failed
    exact World.refusal?_holds refused
  · intro line member warning
    obtain ⟨attempt, error, planned, complaint, failed⟩ :=
      instruction.of_warning roles world texts draws member warning
    refine ⟨attempt, error, planned, complaint, failed, ?_⟩
    rintro refusal rfl
    obtain ⟨_, _, _, _, refused⟩ :=
      instruction.refused_attempt roles world texts draws planned failed
    refine ⟨World.refusal?_holds refused, ?_⟩
    rintro guid deed owns rfl
    exact instruction.attempt_supported roles world texts draws planned owns failed

end Instruction

/-- A pet that is to be respawned, or to be given another template, is taken for a creature, and the
command is refused. So is a kill that is credited to a player under whose guid there is a creature. -/
theorem unsupported_despite_roles :
    let pet : Guid := ⟨.pet, 416, 1⟩
    let player : Guid := .player 2
    let world := ({} : World).insert { guid := pet, state := .dead }
    let confused : World :=
      { entities := OrderedMap.empty.insert player { guid := .creature 20 3 } }
    let bare (command : Command) : Instruction := ⟨0, 0, command, {}, ⟨0, 0, .creature⟩, {}⟩
    let outcome (command : Command) (roles : Roles) (world : World) :=
      ((bare command).execute roles world {} default).1.outcome
    (Row.decode { command := 41 } {} = .ok (bare .respawn) ∧
        outcome .respawn ⟨some pet, none⟩ world =
          .error (.refused (.unsupported pet .respawnAsCreature))) ∧
      (Row.decode { command := 44, datalong := 30 } {} = .ok (bare (.updateTemplate 30 .alliance)) ∧
        outcome (.updateTemplate 30 .alliance) ⟨some pet, none⟩ world =
          .error (.refused (.unsupported pet .changeTemplate))) ∧
      Row.decode { command := 8, datalong := 20 } {} = .ok (bare (.killCredit 20 false)) ∧
        outcome (.killCredit 20 false) ⟨some player, none⟩ confused =
          .error (.refused (.unsupported player .receivePlayerEffects)) :=
  ⟨⟨rfl, rfl⟩, ⟨rfl, rfl⟩, rfl, rfl⟩

end WorldScripts
