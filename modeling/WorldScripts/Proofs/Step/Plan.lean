import WorldScripts.Proofs.World.Applying
import WorldScripts.Step

/-!
What a handler settles before it asks anything of the world. It finds out and draws all that it needs,
and then leaves the world alone, asks it for one effect, or ends the script, perhaps with a secondary
effect. Every handler does what its plan says, whatever the line is in which it reports that.
-/

namespace WorldScripts

-- A secondary effect. If there is none, or it is refused, that is only logged.
structure Attempt where
  effect : Except StepError Effect
  failure : String

inductive Plan where
  | pass
  | act (effect : Effect)
  | stop (attempt : Option Attempt)

namespace Step

-- The plan of the commands that have one role to be filled.
def planAsk (role : Except StepError Guid) (effect : Guid → Effect) : Except StepError Plan := do
  .ok (.act (effect (← role)))

def planTalk (step : Step) (texts : Texts) (chat : ChatType) (language : UInt32) (draws : Draws) :
    Except StepError Plan × Draws :=
  match step.audience chat with
  | .error error => (.error error, draws)
  | .ok (speaker, target) =>
      let candidates := step.instruction.command.texts
      if candidates.isEmpty then (.error (.missingRole step.tag .text), draws)
      else
        let (place, draws) := draws.index candidates.length
        let id := candidates.getD place 0
        if texts.contains id then (.ok (.act (.say speaker target id chat language)), draws)
        else (.error (.missingText id), draws)

-- Who moves around, and where the middle is.
def anchored (step : Step) (world : World) : Except StepError (Guid × Position) := do
  let entity ← step.source .creature
  let anchor ← step.target .any
  let center ← step.positionOf world anchor
  .ok (entity, center)

def planMoveDynamic (step : Step) (world : World) (maxDistance minDistance : UInt32)
    (draws : Draws) : Except StepError Plan × Draws :=
  match step.anchored world with
  | .error error => (.error error, draws)
  | .ok (entity, center) =>
      let (destination, draws) := step.dynamicPoint center maxDistance minDistance draws
      (.ok (.act (.moveTo entity destination 0)), draws)

def planMoveTo (step : Step) (world : World) (travelTime : UInt32) : Except StepError Plan := do
  let entity ← step.source .creature
  let destination ← step.destination world
  .ok (.act (.moveTo entity destination travelTime))

def planExploreQuest (step : Step) (world : World) (quest distance : UInt32) :
    Except StepError Plan := do
  let player ← step.targetOrSource .player
  let other ← step.questGiver player
  let near ← step.isNear world other player distance
  .ok (.act (if near then .exploreArea player quest else .failQuest player quest))

def planSummon (step : Step) (world : World) (creature despawnDelay limit limitDistance : UInt32) :
    Except StepError Plan := do
  let summoner ← step.source .any
  .ok <|
    if limit ≠ 0 ∧
        limit.toNat ≤ world.countNearby summoner creature limitDistance.toFloat32 then .pass
    else .act (.summon summoner creature step.instruction.position despawnDelay step.additional)

def planCast (step : Step) (spell : UInt32) (direction : CastDirection) (triggered : Bool) :
    Except StepError Plan := do
  let (caster, target) ← step.castRoles direction
  .ok (.act (.castSpell caster target spell triggered step.additional))

def planPlaySound (step : Step) (sound : UInt32) (targetOnly distanceDependent : Bool) :
    Except StepError Plan := do
  let origin ← step.source .any
  let listener ← step.listener targetOnly
  .ok (.act (.playSound origin sound listener distanceDependent))

def planTerminate (step : Step) (world : World) (creature searchDistance : UInt32)
    (waitShift : Int32) : Except StepError Plan := do
  let ends ← step.searchEnds world creature searchDistance
  .ok <|
    if !ends then .pass
    else .stop <| if waitShift = 0 then none else some {
      effect := do .ok (.shiftWaypointWait (← step.source .creature) waitShift)
      failure := "waypoint wait not adjusted" }

def planTerminateOnCondition (step : Step) (world : World) (condition failedQuest : UInt32) : Plan :=
  if world.conditionMet condition == step.additional then .pass
  else .stop <| if failedQuest = 0 then none else some {
    effect := do .ok (.failQuest (← step.targetOrSource .player) failedQuest)
    failure := s!"quest {failedQuest} not failed" }

/-- The plan for a command, and the draws left. Only texts and dynamic moves draw anything. -/
def plan (step : Step) (world : World) (texts : Texts) (draws : Draws) :
    Except StepError Plan × Draws :=
  match step.instruction.command with
  | .talk chat language _ => step.planTalk texts chat language draws
  | .moveDynamic maxDistance minDistance =>
      step.planMoveDynamic world maxDistance minDistance draws
  | .emote emote => (planAsk (step.source .unit) (.emote · emote), draws)
  | .setField field value => (planAsk (step.source .any) (.setField · field value), draws)
  | .moveTo travelTime => (step.planMoveTo world travelTime, draws)
  | .changeFlag set field mask => (planAsk (step.source .any) (.changeFlag set · field mask), draws)
  | .teleport map =>
      (planAsk (step.targetOrSource .player) (.teleport · map step.instruction.position), draws)
  | .exploreQuest quest distance => (step.planExploreQuest world quest distance, draws)
  | .killCredit creature group =>
      (planAsk (step.targetOrSource .player) (.killCredit · creature group), draws)
  | .respawnGameObject dbGuid despawnDelay =>
      (planAsk (step.objectOfSpawn world dbGuid) (.respawnGameObject · despawnDelay), draws)
  | .summon creature despawnDelay limit limitDistance =>
      (step.planSummon world creature despawnDelay limit limitDistance, draws)
  | .useDoor opening dbGuid resetDelay =>
      (planAsk (step.objectOfSpawn world dbGuid) (.useDoor · opening resetDelay), draws)
  | .activateObject => (do
      let activator ← step.source .unit
      let object ← step.target .gameObject
      .ok (.act (.activateObject object activator)), draws)
  | .removeAura spell fromSource =>
      (planAsk (if fromSource then step.source .unit else step.target .unit) (.removeAura · spell), draws)
  | .castSpell spell direction triggered => (step.planCast spell direction triggered, draws)
  | .playSound sound targetOnly distanceDependent =>
      (step.planPlaySound sound targetOnly distanceDependent, draws)
  | .createItem item amount => (planAsk (step.targetOrSource .player) (.createItem · item amount), draws)
  | .despawnSelf delay => (planAsk (step.sourceOrTarget .creature) (.despawn · delay), draws)
  | .playMovie movie => (planAsk (step.target .player) (.playMovie · movie), draws)
  | .movement type =>
      (planAsk (step.sourceOrTarget .creature) (.setMovement · type step.additional), draws)
  | .setActive active => (planAsk (step.source .creature) (.setActive · active), draws)
  | .setFaction faction => (planAsk (step.source .creature) (.setFaction · faction), draws)
  | .changeDisplay mounted entryOrModel =>
      (planAsk (step.source .creature) (.changeDisplay mounted · (step.display entryOrModel)), draws)
  | .setRun run => (planAsk (step.source .creature) (.setRun · run), draws)
  | .attackStart => (do
      let attacker ← step.source .creature
      let victim ← step.target .unit
      .ok (.act (.attack attacker victim)), draws)
  | .lockGameObject state => (planAsk (step.source .gameObject) (.lockGameObject · state), draws)
  | .standState stand => (planAsk (step.source .unit) (.standState · stand), draws)
  | .modifyNpcFlags flags op => (planAsk (step.source .creature) (.modifyNpcFlags · flags op), draws)
  | .sendTaxiPath path => (planAsk (step.targetOrSource .player) (.sendTaxiPath · path), draws)
  | .terminateScript creature searchDistance waitShift =>
      (step.planTerminate world creature searchDistance waitShift, draws)
  | .pauseWaypoints pause => (planAsk (step.source .creature) (.pauseWaypoints · pause), draws)
  | .reserved => (.error (.undispatchable step.tag), draws)
  | .terminateOnCondition condition failedQuest =>
      (.ok (step.planTerminateOnCondition world condition failedQuest), draws)
  | .sendAiEvent event radius => (do
      let sender ← step.source .creature
      let invoker ← step.target .unit
      .ok (.act (.sendAiEvent sender invoker event radius)), draws)
  | .setFacing reset => (do
      let creature ← step.source .creature
      let facing ← step.facing reset
      .ok (.act (.setFacing creature facing)), draws)
  | .sendMail template altSender delay =>
      (planAsk (step.target .player) fun player =>
        .sendMail (step.roles.source.filter (· != player)) player template altSender
          (.ofNat delay.toInt.toNat), draws)
  | .setFly fly => (planAsk (step.source .creature) (.setFly · fly step.additional), draws)
  | .despawnGameObject => (planAsk (step.target .gameObject) .despawnGameObject, draws)
  | .respawn => (planAsk (step.source .creature) .respawn, draws)
  | .setEquipment reset slots => (planAsk (step.source .creature) (.setEquipment · reset slots), draws)
  | .resetGameObject => (planAsk (step.target .gameObject) .resetGameObject, draws)
  | .updateTemplate entry team => (planAsk (step.source .creature) (.updateTemplate · entry team), draws)

end Step

-- The world after an attempt, and what is logged of it.
def Attempt.carryOut (attempt : Attempt) (tag : Tag) (world : World) : World × List LogLine :=
  match attempt.effect with
  | .error error => (world, [tag.complaint attempt.failure error])
  | .ok effect =>
      match world.apply effect with
      | (.error error, _) => (world, [tag.complaint attempt.failure (.refused error)])
      | (.ok (), changed) => (changed, world.news effect)

/-- What comes of a plan, which is reported in the end if it has not failed. -/
def Plan.carryOut (plan : Plan) (tag : Tag) (text : String) (world : World) : Execution :=
  match plan with
  | .pass => ⟨.ok .proceed, world, [tag.report text]⟩
  | .act effect =>
      match world.apply effect with
      | (.error error, _) => ⟨.error (.refused error), world, []⟩
      | (.ok (), changed) => ⟨.ok .proceed, changed, world.news effect ++ [tag.report text]⟩
  | .stop none => ⟨.ok .terminate, world, [tag.report text]⟩
  | .stop (some attempt) =>
      let (world, log) := attempt.carryOut tag world
      ⟨.ok .terminate, world, log ++ [tag.report text]⟩

/-- The execution as the end of a handler that began with a state, of which it has drawn some. -/
def Execution.result (done : Execution) (log : List LogLine) (draws : Draws) :
    EStateM.Result StepError StepState Outcome :=
  match done.outcome with
  | .ok outcome => .ok outcome ⟨done.world, draws, log ++ done.log⟩
  | .error error => .error error ⟨done.world, draws, log ++ done.log⟩

namespace StepM

variable {α β : Type} (state : StepState)

theorem lift_bind (found : Except StepError α) (next : α → StepM β) :
    ((liftM found : StepM α) >>= next) state =
      match found with
      | .ok value => next value state
      | .error error => .error error state := by
  cases found <;> rfl

theorem world_bind (next : World → StepM β) : (StepM.world >>= next) state = next state.world state :=
  rfl

theorem draw_bind (f : Draws → α × Draws) (next : α → StepM β) :
    (draw f >>= next) state = next (f state.draws).1 { state with draws := (f state.draws).2 } :=
  rfl

theorem apply_eq (effect : Effect) :
    StepM.apply effect state =
      match state.world.apply effect with
      | (.error error, _) => .error (.refused error) state
      | (.ok (), changed) =>
          .ok () ⟨changed, state.draws, state.log ++ state.world.news effect⟩ := by
  unfold StepM.apply
  rcases state.world.apply_cases effect with ⟨refusal, refused, applied⟩ | ⟨accepted, applied⟩
  · simp only [applied, World.remarks_of_refused refused, List.append_nil]
  · simp only [applied, World.remarks_of_accepted accepted]

theorem apply_bind (effect : Effect) (next : Unit → StepM β) :
    (StepM.apply effect >>= next) state =
      match state.world.apply effect with
      | (.error error, _) => .error (.refused error) state
      | (.ok (), changed) =>
          next () ⟨changed, state.draws, state.log ++ state.world.news effect⟩ := by
  show EStateM.bind _ _ state = _
  rw [EStateM.bind, apply_eq]
  rcases state.world.apply_cases effect with ⟨refusal, _, applied⟩ | ⟨_, applied⟩ <;>
    simp only [applied]

end StepM

namespace Step

open StepM

variable (step : Step)

/-- What comes of a plan that was made in the state, with the draws it has left. -/
def carried (planned : Except StepError Plan × Draws) (text : String) (state : StepState) :
    EStateM.Result StepError StepState Outcome :=
  match planned with
  | (.error error, draws) => .error error { state with draws }
  | (.ok plan, draws) => (plan.carryOut step.tag text state.world).result state.log draws

/-- In a state, the handler does what the plan says, and reports it in some line. -/
def Follows (handler : StepM Outcome) (planned : Except StepError Plan × Draws) (state : StepState) :
    Prop :=
  ∃ text, handler state = step.carried planned text state

section

variable {step} {state : StepState}

theorem follows_act (effect : Effect) (text : String) :
    step.Follows (proceed (do StepM.apply effect; step.report text)) (.ok (.act effect), state.draws)
      state := by
  refine ⟨text, ?_⟩
  unfold proceed carried Plan.carryOut
  rw [bind_assoc, apply_bind]
  rcases state.world.apply_cases effect with ⟨refusal, _, applied⟩ | ⟨_, applied⟩
  · simp only [applied, Execution.result, List.append_nil]
  · simp only [applied, Execution.result, ← List.append_assoc]
    rfl

theorem follows_pass (text : String) :
    step.Follows (proceed (step.report text)) (.ok .pass, state.draws) state :=
  ⟨text, rfl⟩

theorem follows_found {α : Type} {found : Except StepError α} {next : α → StepM Unit}
    {planned : Except StepError Plan × Draws}
    (failed : ∀ error, found = .error error → planned = (.error error, state.draws))
    (rest : ∀ value, found = .ok value → step.Follows (proceed (next value)) planned state) :
    step.Follows (proceed (liftM found >>= next)) planned state := by
  cases found with
  | error error =>
      rw [failed error rfl]
      exact ⟨"", rfl⟩
  | ok value => exact rest value rfl

-- What is found out at first is the same for the handler and for the plan.
theorem follows_bind {α : Type} {found : Except StepError α} {next : α → StepM Unit}
    {plan : α → Except StepError Plan}
    (rest : ∀ value, step.Follows (proceed (next value)) (plan value, state.draws) state) :
    step.Follows (proceed (liftM found >>= next)) (found >>= plan, state.draws) state := by
  refine follows_found (fun error failed => by rw [failed]; rfl) fun value found => ?_
  rw [found]
  exact rest value

theorem follows_ite {choice : Prop} [Decidable choice] {yes no : StepM Unit}
    {planned : Except StepError Plan × Draws}
    (chosen : choice → step.Follows (proceed yes) planned state)
    (otherwise : ¬ choice → step.Follows (proceed no) planned state) :
    step.Follows (proceed (if choice then yes else no)) planned state := by
  by_cases choose : choice
  · rw [if_pos choose]
    exact chosen choose
  · rw [if_neg choose]
    exact otherwise choose

theorem follows_draw {α : Type} {f : Draws → α × Draws} {next : α → StepM Unit}
    {planned : Except StepError Plan × Draws}
    (rest : step.Follows (proceed (next (f state.draws).1)) planned
      { state with draws := (f state.draws).2 }) :
    step.Follows (proceed (draw f >>= next)) planned state :=
  rest

end

variable (state : StepState)

theorem ask_follows (role : Except StepError Guid) (effect : Guid → Effect) (text : Guid → String) :
    step.Follows (proceed (step.ask role effect text)) (planAsk role effect, state.draws) state :=
  follows_bind fun guid => follows_act (effect guid) (text guid)

theorem talk_follows (texts : Texts) (chat : ChatType) (language : UInt32) :
    step.Follows (proceed (step.talk texts chat language))
      (step.planTalk texts chat language state.draws) state := by
  refine follows_found (fun error failed => by simp only [planTalk, failed]) fun roles found => ?_
  simp only [planTalk, found]
  refine follows_ite (fun empty => ?_) fun some => ?_
  · rw [if_pos empty]
    exact ⟨"", rfl⟩
  · rw [if_neg some]
    refine follows_draw (follows_ite (fun known => ?_) fun unknown => ?_)
    · rw [if_pos known]
      exact follows_act _ _
    · rw [if_neg unknown]
      exact ⟨"", rfl⟩

theorem moveTo_follows (travelTime : UInt32) :
    step.Follows (proceed (step.moveTo travelTime)) (step.planMoveTo state.world travelTime, state.draws)
      state :=
  follows_bind fun _ => follows_bind fun _ => follows_act _ _

theorem exploreQuest_follows (quest distance : UInt32) :
    step.Follows (proceed (step.exploreQuest quest distance))
      (step.planExploreQuest state.world quest distance, state.draws) state := by
  refine follows_bind fun player => follows_bind fun other => follows_bind fun near => ?_
  cases near <;> exact follows_act _ _

theorem summon_follows (creature despawnDelay limit limitDistance : UInt32) :
    step.Follows (proceed (step.summon creature despawnDelay limit limitDistance))
      (step.planSummon state.world creature despawnDelay limit limitDistance, state.draws) state := by
  refine follows_bind fun summoner => follows_ite (fun full => ?_) fun room => ?_
  · rw [if_pos full]
    exact follows_pass _
  · rw [if_neg room]
    exact follows_act _ _

theorem castSpell_follows (spell : UInt32) (direction : CastDirection) (triggered : Bool) :
    step.Follows (proceed (step.castSpell spell direction triggered))
      (step.planCast spell direction triggered, state.draws) state :=
  follows_bind fun _ => follows_act _ _

theorem playSound_follows (sound : UInt32) (targetOnly distanceDependent : Bool) :
    step.Follows (proceed (step.playSound sound targetOnly distanceDependent))
      (step.planPlaySound sound targetOnly distanceDependent, state.draws) state :=
  follows_bind fun _ => follows_bind fun _ => follows_act _ _

-- The draws come behind everything that can fail.
theorem moveDynamic_follows (maxDistance minDistance : UInt32) :
    step.Follows (proceed (step.moveDynamic maxDistance minDistance))
      (step.planMoveDynamic state.world maxDistance minDistance state.draws) state := by
  have lost (error : StepError) (failed : step.anchored state.world = .error error) :
      step.planMoveDynamic state.world maxDistance minDistance state.draws =
        (.error error, state.draws) := by
    rw [planMoveDynamic, failed]
  refine follows_found (fun error failed => lost error ?_) fun entity able => ?_
  · rw [anchored, failed]
    rfl
  refine follows_found (fun error failed => lost error ?_) fun anchor there => ?_
  · rw [anchored, able, failed]
    rfl
  refine follows_found (fun error failed => lost error ?_) fun center placed => ?_
  · rw [anchored, able, there]
    exact congrArg (· >>= fun center => .ok (entity, center)) failed
  have found : step.anchored state.world = .ok (entity, center) := by
    rw [anchored, able, there]
    exact congrArg (· >>= fun center => .ok (entity, center)) placed
  rw [planMoveDynamic, found]
  exact follows_draw (follows_act _ _)

theorem attempt_eq (failure : String) (effect : Except StepError Effect) :
    step.attempt failure effect state =
      let done := (Attempt.mk effect failure).carryOut step.tag state.world
      .ok () ⟨done.1, state.draws, state.log ++ done.2⟩ := by
  unfold attempt Attempt.carryOut
  cases effect with
  | error error => rfl
  | ok effect =>
      show EStateM.tryCatch (StepM.apply effect) _ state = _
      unfold EStateM.tryCatch
      rw [apply_eq]
      rcases state.world.apply_cases effect with ⟨refusal, _, applied⟩ | ⟨_, applied⟩
      · simp only [applied]
        rfl
      · simp only [applied]

theorem stop_follows (attempt : Attempt) (text : String) :
    step.Follows (do
        step.attempt attempt.failure attempt.effect
        step.report text
        return .terminate)
      (.ok (.stop (some attempt)), state.draws) state := by
  refine ⟨text, ?_⟩
  show EStateM.bind (step.attempt _ _) _ state = _
  rw [EStateM.bind, attempt_eq]
  simp only [carried, Plan.carryOut, Execution.result, ← List.append_assoc]
  rfl

theorem terminateScript_follows (creature searchDistance : UInt32) (waitShift : Int32) :
    step.Follows (step.terminateScript creature searchDistance waitShift)
      (step.planTerminate state.world creature searchDistance waitShift, state.draws) state := by
  unfold terminateScript planTerminate Follows
  simp only [world_bind, lift_bind]
  cases step.searchEnds state.world creature searchDistance with
  | error error => exact ⟨"", rfl⟩
  | ok ends =>
      cases ends with
      | false => exact ⟨_, rfl⟩
      | true =>
          by_cases still : waitShift = 0
          · rw [if_pos still, if_neg (fun changes => changes still)]
            exact ⟨_, rfl⟩
          · rw [if_neg still, if_pos still]
            exact step.stop_follows state ⟨_, _⟩ _

theorem terminateOnCondition_follows (condition failedQuest : UInt32) :
    step.Follows (step.terminateOnCondition condition failedQuest)
      (.ok (step.planTerminateOnCondition state.world condition failedQuest), state.draws) state := by
  unfold terminateOnCondition planTerminateOnCondition Follows
  simp only [world_bind]
  by_cases continues : (state.world.conditionMet condition == step.additional) = true
  · rw [if_pos continues, if_pos continues]
    exact ⟨_, rfl⟩
  · rw [if_neg continues, if_neg continues]
    by_cases still : failedQuest = 0
    · rw [if_pos still, if_neg (fun changes => changes still)]
      exact ⟨_, rfl⟩
    · rw [if_neg still, if_pos still]
      exact step.stop_follows state ⟨_, _⟩ _

theorem dispatch_follows (texts : Texts) :
    step.Follows (step.dispatch texts) (step.plan state.world texts state.draws) state := by
  unfold dispatch plan
  cases step.instruction.command with
  | talk chat language => exact step.talk_follows state texts chat language
  | moveTo time => exact step.moveTo_follows state time
  | exploreQuest quest distance => exact step.exploreQuest_follows state quest distance
  | summon creature delay limit distance => exact step.summon_follows state creature delay limit distance
  | castSpell spell direction triggered => exact step.castSpell_follows state spell direction triggered
  | playSound sound targetOnly dependent => exact step.playSound_follows state sound targetOnly dependent
  | terminateScript creature distance shift =>
      exact step.terminateScript_follows state creature distance shift
  | terminateOnCondition condition quest =>
      exact step.terminateOnCondition_follows state condition quest
  | moveDynamic maxDistance minDistance =>
      exact step.moveDynamic_follows state maxDistance minDistance
  | activateObject | attackStart | sendAiEvent | setFacing =>
      exact follows_bind fun _ => follows_bind fun _ => follows_act _ _
  | reserved => exact ⟨"", rfl⟩
  | _ => exact step.ask_follows state _ _ _

end Step

theorem Execution.ofResult_result (done : Execution) (log : List LogLine) (draws : Draws) :
    Execution.ofResult (done.result log draws) = ({ done with log := log ++ done.log }, draws) := by
  obtain ⟨error | outcome, world, lines⟩ := done <;> rfl

theorem Step.ofResult_carried (step : Step) (planned : Except StepError Plan × Draws) (text : String)
    (state : StepState) :
    Execution.ofResult (step.carried planned text state) =
      match planned with
      | (.error error, left) => (⟨.error error, state.world, state.log⟩, left)
      | (.ok plan, left) =>
          let done := plan.carryOut step.tag text state.world
          ({ done with log := state.log ++ done.log }, left) := by
  obtain ⟨error | plan, left⟩ := planned
  · rfl
  · exact Execution.ofResult_result _ _ _

/-- A command whose buddy is not found fails. Any other does what its plan says, behind the line about its
buddy. -/
theorem Instruction.execute_eq (instruction : Instruction) (roles : Roles) (world : World)
    (texts : Texts) (draws : Draws) :
    ∃ text, instruction.execute roles world texts draws =
      match instruction.findBuddy roles world with
      | .error error => (⟨.error error, world, []⟩, draws)
      | .ok buddy =>
          let step : Step := ⟨instruction, instruction.flags.assign roles buddy⟩
          let found := instruction.buddyLines buddy
          match step.plan world texts draws with
          | (.error error, left) => (⟨.error error, world, found⟩, left)
          | (.ok plan, left) =>
              let done := plan.carryOut instruction.tag text world
              ({ done with log := found ++ done.log }, left) := by
  unfold execute run
  simp only [StepM.world_bind, StepM.lift_bind]
  cases instruction.findBuddy roles world with
  | error error => exact ⟨"", rfl⟩
  | ok buddy =>
      let step : Step := ⟨instruction, instruction.flags.assign roles buddy⟩
      obtain ⟨text, followed⟩ :=
        step.dispatch_follows ⟨world, draws, instruction.buddyLines buddy⟩ texts
      exact ⟨text, (congrArg Execution.ofResult followed).trans (step.ofResult_carried _ _ _)⟩

end WorldScripts
