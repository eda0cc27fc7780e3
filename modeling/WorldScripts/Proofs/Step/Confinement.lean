import Mathlib.Tactic.MkIffOfInductiveProp
import WorldScripts.Proofs.Step.Planning

/-!
Whom a command can reach. Every effect that is asked of the world names only entities that have a role
in the command, and each of them is of a kind for which the effect has a meaning. The one exception to
the roles are gameobjects that a command finds by their spawn.
-/

namespace WorldScripts

namespace Guid

def IsPlayer (guid : Guid) : Prop :=
  guid.kind = .player

def IsGameObject (guid : Guid) : Prop :=
  guid.kind = .gameObject

def IsCreature (guid : Guid) : Prop :=
  guid.kind = .creature ∨ guid.kind = .pet

def IsUnit (guid : Guid) : Prop :=
  guid.kind = .player ∨ guid.kind = .creature ∨ guid.kind = .pet

end Guid

namespace Capacity

variable (guid : Guid)

@[simp] theorem admits_any : any.admits guid.kind = true := rfl

@[simp] theorem admits_player : player.admits guid.kind = true ↔ guid.IsPlayer := beq_iff_eq

@[simp] theorem admits_gameObject : gameObject.admits guid.kind = true ↔ guid.IsGameObject :=
  beq_iff_eq

@[simp] theorem admits_creature : creature.admits guid.kind = true ↔ guid.IsCreature := by
  unfold admits Guid.IsCreature
  cases guid.kind <;> decide

@[simp] theorem admits_unit : unit.admits guid.kind = true ↔ guid.IsUnit := by
  unfold admits Guid.IsUnit
  cases guid.kind <;> decide

end Capacity

@[simp] def Roles.Hold (roles : Roles) (guid : Guid) : Prop :=
  roles.source = some guid ∨ roles.target = some guid

@[simp] def Facing.target? : Facing → Option Guid
  | .toward target _ => some target
  | .orientation _ | .reset => none

namespace Effect

@[simp] def guids : Effect → List Guid
  | .say speaker target .. => speaker :: target.toList
  | .playSound origin _ listener _ => origin :: listener.toList
  | .activateObject object activator => [object, activator]
  | .castSpell caster target .. => [caster, target]
  | .attack attacker victim => [attacker, victim]
  | .sendAiEvent sender invoker .. => [sender, invoker]
  | .setFacing creature facing => creature :: facing.target?.toList
  | .sendMail sender player .. => player :: sender.toList
  | .emote guid _ | .setField guid .. | .changeFlag _ guid .. | .moveTo guid .. | .teleport guid ..
  | .exploreArea guid _ | .failQuest guid _ | .killCredit guid .. | .respawnGameObject guid _
  | .summon guid .. | .useDoor guid .. | .removeAura guid _ | .createItem guid .. | .despawn guid _
  | .playMovie guid _ | .setMovement guid .. | .setActive guid _ | .setFaction guid _
  | .changeDisplay _ guid _ | .setRun guid _ | .lockGameObject guid _ | .standState guid _
  | .modifyNpcFlags guid .. | .sendTaxiPath guid _ | .shiftWaypointWait guid _
  | .pauseWaypoints guid _ | .setFly guid .. | .despawnGameObject guid | .respawn guid
  | .setEquipment guid .. | .resetGameObject guid | .updateTemplate guid .. => [guid]

/-- Everyone named has a role, but for a gameobject that was found by its spawn. -/
@[simp] def ConfinedTo (effect : Effect) (roles : Roles) (spawned : Option Guid) : Prop :=
  match effect with
  | .respawnGameObject object _ | .useDoor object .. => spawned = some object
  | effect => ∀ guid ∈ effect.guids, roles.Hold guid

/-- Everyone named is of a kind that the effect is for. -/
@[simp] def WellKinded : Effect → Prop
  | .say _ target _ chat _ =>
      chat.isWhisper = true → ∃ player, target = some player ∧ player.IsPlayer
  | .playSound _ _ listener _ => ∀ player, listener = some player → player.IsPlayer
  | .teleport player .. | .exploreArea player _ | .failQuest player _ | .killCredit player ..
  | .createItem player .. | .playMovie player _ | .sendTaxiPath player _ | .sendMail _ player .. =>
      player.IsPlayer
  | .respawnGameObject object _ | .useDoor object .. | .lockGameObject object _
  | .despawnGameObject object | .resetGameObject object => object.IsGameObject
  | .activateObject object activator => object.IsGameObject ∧ activator.IsUnit
  | .moveTo creature .. | .despawn creature _ | .setActive creature _ | .setMovement creature ..
  | .setFaction creature _ | .changeDisplay _ creature _ | .setRun creature _
  | .modifyNpcFlags creature .. | .shiftWaypointWait creature _ | .pauseWaypoints creature _
  | .setFly creature .. | .respawn creature | .setEquipment creature ..
  | .updateTemplate creature .. => creature.IsCreature
  | .setFacing creature facing =>
      creature.IsCreature ∧ ∀ target, facing = .toward target true → target.IsUnit
  | .attack attacker victim => attacker.IsCreature ∧ victim.IsUnit
  | .sendAiEvent sender invoker .. => sender.IsCreature ∧ invoker.IsUnit
  | .emote unit _ | .standState unit _ | .removeAura unit _ | .castSpell unit .. => unit.IsUnit
  | .setField .. | .changeFlag .. | .summon .. => True

/-- The creature that an effect respawns or gives another template, with the command that does so. -/
@[simp] def creatureOnly? : Effect → Option (Tag × Guid)
  | .respawn creature => some (.respawn, creature)
  | .updateTemplate creature .. => some (.updateTemplate, creature)
  | _ => none

end Effect

theorem World.kind_of_findByDbGuid? {world : World} {kind : BuddyKind} {dbGuid : UInt32}
    {guid : Guid} (found : world.findByDbGuid? kind dbGuid = some guid) : guid.kind.servesAs kind = true := by
  obtain ⟨entry, first, rfl⟩ := Option.map_eq_some_iff.mp found
  have serves := List.find?_some first
  simp only [Bool.and_eq_true] at serves
  exact serves.2

namespace Step

variable (step : Step) (world : World) (texts : Texts) (draws : Draws)

def spawned? : Option Guid :=
  step.instruction.command.gameObjectSpawn?.bind (world.findByDbGuid? .gameObject)

/-- The effect is one that the command may have asked for. -/
@[mk_iff] structure Confines (effect : Effect) : Prop where
  named : effect.ConfinedTo step.roles (step.spawned? world)
  kinds : effect.WellKinded
  onlyCreature : ∀ tag creature, effect.creatureOnly? = some (tag, creature) →
    step.tag = tag ∧ step.roles.source = some creature

attribute [simp] confines_iff

def ConfinesPlan : Plan → Prop
  | .pass => True
  | .act effect => step.Confines world effect
  | .stop none => True
  | .stop (some attempt) => Settles attempt.effect (step.Confines world)

section

variable {step world}

@[simp] theorem confinesPlan_pass : step.ConfinesPlan world .pass := trivial

@[simp] theorem confinesPlan_act (effect : Effect) :
    step.ConfinesPlan world (.act effect) ↔ step.Confines world effect := Iff.rfl

theorem ConfinesPlan.effect {plan : Plan} {effect : Effect} (confined : step.ConfinesPlan world plan)
    (asked : plan.effect? = some effect) : step.Confines world effect := by
  cases plan with
  | pass => cases asked
  | act effect =>
      cases asked
      exact confined
  | stop attempt? =>
      cases attempt? with
      | none => cases asked
      | some attempt =>
          have settled : Settles attempt.effect (step.Confines world) := confined
          have asked : attempt.effect.toOption = some effect := asked
          cases made : attempt.effect with
          | error error => simp [made, Except.toOption] at asked
          | ok effect' =>
              rw [made] at settled asked
              cases asked
              exact settled

end

theorem settles_targetOrSource {sound : Guid → Prop} (capacity : Capacity)
    (able : ∀ guid, step.roles.Hold guid → capacity.admits guid.kind = true → sound guid) :
    Settles (step.targetOrSource capacity) sound :=
  step.settles_either _ _ _ fun guid held => able guid held.symm

theorem settles_sourceOrTarget {sound : Guid → Prop} (capacity : Capacity)
    (able : ∀ guid, step.roles.Hold guid → capacity.admits guid.kind = true → sound guid) :
    Settles (step.sourceOrTarget capacity) sound :=
  step.settles_either _ _ _ able

/-! One lemma for each plan that is made in a function of its own. -/

theorem audience_settles (chat : ChatType) :
    Settles (step.audience chat) fun heard =>
      step.roles.source = some heard.1 ∧
        (∀ guid, heard.2 = some guid → step.roles.target = some guid) ∧
        (chat.isWhisper = true → ∃ player, heard.2 = some player ∧ player.IsPlayer) := by
  unfold audience
  by_cases whisper : chat.isWhisper = true
  · simp +contextual [whisper]
  · simp [whisper]

theorem planTalk_confined (chat : ChatType) (language : UInt32) :
    Settles (step.planTalk texts chat language draws).1 (step.ConfinesPlan world) := by
  have settled := step.audience_settles chat
  unfold planTalk
  cases heard : step.audience chat with
  | error error =>
      rw [heard] at settled
      exact settled
  | ok pair =>
      obtain ⟨speaker, target⟩ := pair
      rw [heard] at settled
      obtain ⟨source, roles, whisper⟩ := settled
      dsimp only
      split
      · rfl
      · split
        · simp_all
        · rfl

theorem planMoveDynamic_confined (maxDistance minDistance : UInt32) :
    Settles (step.planMoveDynamic world maxDistance minDistance draws).1
      (step.ConfinesPlan world) := by
  -- The draws come between the roles and the plan, so that the roles are settled by themselves.
  have settled : Settles (step.anchored world) fun roles =>
      step.roles.source = some roles.1 ∧ roles.1.IsCreature := by
    simp +contextual [anchored]
  unfold planMoveDynamic
  split
  · rename_i missing
    rw [missing] at settled
    exact settled
  · rename_i entity center found
    rw [found] at settled
    simpa using settled.imp_left Or.inl

theorem planMoveTo_confined (travelTime : UInt32) :
    Settles (step.planMoveTo world travelTime) (step.ConfinesPlan world) := by
  simp +contextual [planMoveTo, destination]

theorem planExploreQuest_confined (quest distance : UInt32) :
    Settles (step.planExploreQuest world quest distance) (step.ConfinesPlan world) := by
  simp only [planExploreQuest, settles_bind]
  refine step.settles_targetOrSource _ fun player held able => ?_
  refine step.settles_questGiver player fun giver => ?_
  have explorer : player.IsPlayer := by simpa using able
  have either (near : Bool) : step.ConfinesPlan world
      (.act (if near then .exploreArea player quest else .failQuest player quest)) := by
    cases near <;> simpa using ⟨held, explorer⟩
  unfold isNear
  split <;> simp [-Roles.Hold, either]

theorem planSummon_confined (creature despawnDelay limit limitDistance : UInt32) :
    Settles (step.planSummon world creature despawnDelay limit limitDistance)
      (step.ConfinesPlan world) := by
  simp only [planSummon, settles_bind, settles_source, settles_ok]
  intro summoner source _
  split <;> simp [source]

theorem planCast_confined (spell : UInt32) (direction : CastDirection) (triggered : Bool) :
    Settles (step.planCast spell direction triggered) (step.ConfinesPlan world) := by
  cases direction <;> simp +contextual [planCast, castRoles]

theorem planPlaySound_confined (sound : UInt32) (targetOnly distanceDependent : Bool) :
    Settles (step.planPlaySound sound targetOnly distanceDependent) (step.ConfinesPlan world) := by
  simp +contextual [planPlaySound, listener]

theorem facing_settles (reset : Bool) :
    Settles (step.facing reset) fun facing =>
      (∀ target, facing.target? = some target → step.roles.target = some target) ∧
        ∀ target, facing = .toward target true → target.IsUnit := by
  unfold facing
  split
  · simp
  · split
    · simp +contextual
    · split <;> simp_all

theorem planTerminate_confined (creature searchDistance : UInt32) (waitShift : Int32) :
    Settles (step.planTerminate world creature searchDistance waitShift)
      (step.ConfinesPlan world) := by
  simp only [planTerminate, settles_bind]
  refine step.settles_searchEnds world creature searchDistance fun ends => ?_
  split
  · trivial
  · split
    · trivial
    · simp +contextual [ConfinesPlan]

theorem planTerminateOnCondition_confined (condition failedQuest : UInt32) :
    step.ConfinesPlan world (step.planTerminateOnCondition world condition failedQuest) := by
  unfold planTerminateOnCondition
  split
  · trivial
  · split
    · trivial
    · refine (settles_bind _ _).mpr (step.settles_targetOrSource _ fun player held able => ?_)
      simp_all

theorem plan_confined : Settles (step.plan world texts draws).1 (step.ConfinesPlan world) := by
  unfold plan
  cases command : step.instruction.command with
  | emote | setField | changeFlag | activateObject | removeAura | playMovie | setActive | setFaction
  | changeDisplay | setRun | attackStart | lockGameObject | standState | modifyNpcFlags
  | pauseWaypoints | sendAiEvent | sendMail | setFly | despawnGameObject | respawn | setEquipment
  | resetGameObject | updateTemplate =>
      -- Whoever is named has been asked for under a role, with the capacity that the effect is for.
      simp +contextual [tag, Instruction.tag, command, Command.tag]
  | talk chat language => exact step.planTalk_confined world texts draws chat language
  | moveDynamic max min => exact step.planMoveDynamic_confined world draws max min
  | moveTo time => exact step.planMoveTo_confined world time
  | exploreQuest quest distance => exact step.planExploreQuest_confined world quest distance
  | summon creature delay limit distance =>
      exact step.planSummon_confined world creature delay limit distance
  | castSpell spell direction triggered =>
      exact step.planCast_confined world spell direction triggered
  | playSound sound targetOnly dependent =>
      exact step.planPlaySound_confined world sound targetOnly dependent
  | reserved => rfl
  | terminateScript creature distance shift =>
      exact step.planTerminate_confined world creature distance shift
  | terminateOnCondition condition quest =>
      exact step.planTerminateOnCondition_confined world condition quest
  | setFacing reset =>
      simp only [settles_bind, settles_source]
      intro creature source able
      refine (step.facing_settles reset).mono fun facing sound => ?_
      simp_all
  | teleport | killCredit | createItem | sendTaxiPath =>
      refine (settles_planAsk _ _).mpr ?_
      refine step.settles_targetOrSource _ fun player held able => ?_
      simp_all
  | despawnSelf | movement =>
      refine (settles_planAsk _ _).mpr ?_
      refine step.settles_sourceOrTarget _ fun creature held able => ?_
      simp_all
  | respawnGameObject dbGuid | useDoor _ dbGuid =>
      refine (settles_planAsk _ _).mpr ((step.settles_objectOfSpawn world dbGuid).mpr ?_)
      intro object found
      have kind : object.IsGameObject := beq_iff_eq.mp (World.kind_of_findByDbGuid? found)
      simp [spawned?, command, Command.gameObjectSpawn?, found, kind]

end Step

namespace Instruction

section

variable (instruction : Instruction) (roles : Roles) (world : World) (texts : Texts)
variable (draws : Draws)

theorem planned_confined :
    Settles (instruction.planned roles world texts draws) fun plan =>
      ∃ given, instruction.resolve roles world = .ok given ∧
        Step.ConfinesPlan ⟨instruction, given⟩ world plan := by
  have settled := instruction.resolve_settles roles world fun _ found => found
  unfold planned
  cases found : instruction.resolve roles world with
  | error error =>
      rw [found] at settled
      exact settled
  | ok given =>
      exact (Step.plan_confined ⟨instruction, given⟩ world texts draws).mono fun plan confined =>
        ⟨given, rfl, confined⟩

theorem request_confines {effect : Effect}
    (requested : instruction.request? roles world texts draws = some effect) :
    ∃ given, instruction.resolve roles world = .ok given ∧
      Step.Confines ⟨instruction, given⟩ world effect := by
  have settled := instruction.planned_confined roles world texts draws
  unfold request? at requested
  cases planned : instruction.planned roles world texts draws with
  | error error => simp [planned, Except.toOption] at requested
  | ok plan =>
      rw [planned] at settled requested
      obtain ⟨given, found, confined⟩ := settled
      exact ⟨given, found, confined.effect requested⟩

theorem execute_refused {refusal : EffectError} :
    (instruction.execute roles world texts draws).1.outcome = .error (.refused refusal) ↔
      ∃ effect, instruction.planned roles world texts draws = .ok (.act effect) ∧
        world.refusal? effect = some refusal := by
  obtain ⟨found, text, _, executed⟩ := instruction.execute_planned roles world texts draws
  have settled := instruction.planned_confined roles world texts draws
  rw [executed]
  cases planned : instruction.planned roles world texts draws with
  | error error =>
      rw [planned] at settled
      constructor
      · rintro ⟨⟩
        cases settled
      · rintro ⟨_, ⟨⟩, _⟩
  | ok plan =>
      refine (plan.carryOut_error instruction.tag text world).trans ?_
      constructor
      · rintro ⟨effect, _, rfl, refused, ⟨⟩⟩
        exact ⟨effect, rfl, refused⟩
      · rintro ⟨effect, ⟨⟩, refused⟩
        exact ⟨effect, refusal, rfl, refused, rfl⟩

end

/-- The world only ever changes by the effect that a command asks for, and only that effect can be
refused. It names nobody but the source and the target that were found, or the gameobject that a spawn
led to, and whoever it names is of a kind that it is for. -/
theorem execute_confined (instruction : Instruction) (roles : Roles) (world : World) (texts : Texts)
    (draws : Draws) :
    let done := (instruction.execute roles world texts draws).1
    let request := instruction.request? roles world texts draws
    done.world = world.offered request ∧
      (∀ refusal, done.outcome = .error (.refused refusal) →
        ∃ effect, request = some effect ∧ (world.apply effect).1 = .error refusal) ∧
      ∀ effect, request = some effect → ∃ given, instruction.resolve roles world = .ok given ∧
        effect.ConfinedTo given
          (instruction.command.gameObjectSpawn?.bind (world.findByDbGuid? .gameObject)) ∧
        effect.WellKinded := by
  dsimp only
  refine ⟨instruction.execute_world roles world texts draws, ?_, ?_⟩
  · intro refusal refused
    obtain ⟨effect, planned, unwilling⟩ :=
      (instruction.execute_refused roles world texts draws).mp refused
    exact ⟨effect, instruction.request?_of_planned roles world texts draws planned,
      World.refuses_iff.mpr unwilling⟩
  · intro effect requested
    obtain ⟨given, found, confines⟩ := instruction.request_confines roles world texts draws requested
    exact ⟨given, found, confines.named, confines.kinds⟩

end Instruction

end WorldScripts
