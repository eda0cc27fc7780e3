import WorldScripts.Step.Context
import WorldScripts.Text.Hexadecimal
import WorldScripts.Texts

/-!
The commands, one handler for each. A handler checks the roles it needs, looks up and draws what it has to,
applies an effect, and reports what it did. The world, the draws and the log are passed from one step of it
to the next, and are left as they are then when a step fails.
-/

namespace WorldScripts

structure StepState where
  world : World
  draws : Draws
  log : List LogLine := []

abbrev StepM := EStateM StepError StepState

namespace StepM

def fail {α : Type} (error : StepError) : StepM α := fun state => .error error state

instance : MonadLift (Except StepError) StepM where
  monadLift
    | .ok value => pure value
    | .error error => fail error

def world : StepM World := fun state => .ok state.world state

def draw {α : Type} (f : Draws → α × Draws) : StepM α := fun state =>
  let (value, draws) := f state.draws
  .ok value { state with draws }

def tell (lines : List LogLine) : StepM Unit := fun state =>
  .ok () { state with log := state.log ++ lines }

/-- Applies an effect. Whatever the world makes of it, it is that world which the command goes on with. -/
def apply (effect : Effect) : StepM Unit := fun state =>
  let (answer, world) := state.world.apply effect
  let state := { state with world, log := state.log ++ state.world.remarks effect }
  match answer with
  | .ok () => .ok () state
  | .error error => .error (.refused error) state

end StepM

namespace Tag

def report (tag : Tag) (text : String) : LogLine :=
  .info s!"└─ command: {tag} {text}"

def complaint (tag : Tag) (failure : String) (error : StepError) : LogLine :=
  .warn s!"{tag}: {failure}: {error.message}"

end Tag

namespace Step

open StepM

def report (step : Step) (text : String) : StepM Unit :=
  tell [step.tag.report text]

/-- An effect that the outcome of the command does not depend on. -/
def attempt (step : Step) (failure : String) (effect : Except StepError Effect) : StepM Unit :=
  tryCatch (do apply (← effect)) fun error => tell [step.tag.complaint failure error]

def ask (step : Step) (role : Except StepError Guid) (effect : Guid → Effect)
    (text : Guid → String) : StepM Unit := do
  let guid ← role
  apply (effect guid)
  step.report (text guid)

def talk (step : Step) (texts : Texts) (chat : ChatType) (language : UInt32) : StepM Unit := do
  let (speaker, target) ← step.audience chat
  let candidates := step.instruction.command.texts
  if candidates.isEmpty then fail (.missingRole step.tag .text)
  else do
    let place ← draw (·.index candidates.length)
    let id := candidates.getD place 0
    if texts.contains id then do
      apply (.say speaker target id chat language)
      step.report s!"{speaker} says text {id} ({chat.name})"
    else fail (.missingText id)

def moveTo (step : Step) (travelTime : UInt32) : StepM Unit := do
  let entity ← step.source .creature
  let destination ← step.destination (← world)
  apply (.moveTo entity destination travelTime)
  step.report (s!"{entity} moving to " ++
    coordinatesText [destination.x, destination.y, destination.z] ++ s!" in {travelTime}ms")

def exploreQuest (step : Step) (quest distance : UInt32) : StepM Unit := do
  let player ← step.targetOrSource .player
  let other ← step.questGiver player
  if ← step.isNear (← world) other player distance then do
    apply (.exploreArea player quest)
    step.report s!"quest {quest} explored by {player}"
  else do
    apply (.failQuest player quest)
    step.report s!"{player} too far, quest {quest} failed"

def summon (step : Step) (creature despawnDelay limit limitDistance : UInt32) : StepM Unit := do
  let summoner ← step.source .any
  let nearby := (← world).countNearby summoner creature limitDistance.toFloat32
  if limit ≠ 0 ∧ limit.toNat ≤ nearby then
    step.report s!"skipped, {nearby} of {creature} already within {limitDistance}"
  else do
    apply (.summon summoner creature step.instruction.position despawnDelay step.additional)
    step.report s!"{summoner} summons {creature}"

def activateObject (step : Step) : StepM Unit := do
  let activator ← step.source .unit
  let object ← step.target .gameObject
  apply (.activateObject object activator)
  step.report s!"{activator} activates {object}"

def castSpell (step : Step) (spell : UInt32) (direction : CastDirection) (triggered : Bool) :
    StepM Unit := do
  let (caster, target) ← step.castRoles direction
  apply (.castSpell caster target spell triggered step.additional)
  step.report s!"{caster} casts {spell} at {target}"

def playSound (step : Step) (sound : UInt32) (targetOnly distanceDependent : Bool) :
    StepM Unit := do
  let origin ← step.source .any
  let listener ← step.listener targetOnly
  apply (.playSound origin sound listener distanceDependent)
  step.report s!"{origin} plays sound {sound}"

def attackStart (step : Step) : StepM Unit := do
  let attacker ← step.source .creature
  let victim ← step.target .unit
  apply (.attack attacker victim)
  step.report s!"{attacker} attacks {victim}"

def terminateScript (step : Step) (creature searchDistance : UInt32) (waitShift : Int32) :
    StepM Outcome := do
  let ends ← step.searchEnds (← world) creature searchDistance
  if !ends then do
    step.report s!"script {step.instruction.key} continues"
    return .proceed
  else do
    if waitShift ≠ 0 then
      step.attempt "waypoint wait not adjusted" do
        return .shiftWaypointWait (← step.source .creature) waitShift
    step.report s!"script {step.instruction.key} terminated"
    return .terminate

/-- By default the script ends when the condition is met, an additional row ends it otherwise. -/
def terminateOnCondition (step : Step) (condition failedQuest : UInt32) : StepM Outcome := do
  let met := (← world).conditionMet condition
  if met == step.additional then do
    step.report s!"condition {condition} = {met}, continuing"
    return .proceed
  else do
    if failedQuest ≠ 0 then
      step.attempt s!"quest {failedQuest} not failed" do
        return .failQuest (← step.targetOrSource .player) failedQuest
    step.report s!"condition {condition} = {met}, script {step.instruction.key} terminated"
    return .terminate

def sendAiEvent (step : Step) (event radius : UInt32) : StepM Unit := do
  let sender ← step.source .creature
  let invoker ← step.target .unit
  apply (.sendAiEvent sender invoker event radius)
  step.report s!"{sender} sends event {event} (radius {radius})"

def setFacing (step : Step) (reset : Bool) : StepM Unit := do
  let creature ← step.source .creature
  let facing ← step.facing reset
  apply (.setFacing creature facing)
  step.report s!"{creature} {facing.describe}"

def moveDynamic (step : Step) (maxDistance minDistance : UInt32) : StepM Unit := do
  let entity ← step.source .creature
  let anchor ← step.target .any
  let center ← step.positionOf (← world) anchor
  let destination ← draw (step.dynamicPoint center maxDistance minDistance)
  apply (.moveTo entity destination 0)
  step.report (s!"{entity} moving around {anchor} to " ++
    coordinatesText [destination.x, destination.y])

def listText (values : List Int32) : String :=
  "[" ++ ", ".intercalate (values.map toString) ++ "]"

def proceed (handler : StepM Unit) : StepM Outcome := do
  handler
  return .proceed

def dispatch (step : Step) (texts : Texts) : StepM Outcome :=
  match step.instruction.command with
  | .talk chat language _ => proceed (step.talk texts chat language)
  | .emote emote => proceed <| step.ask (step.source .unit) (.emote · emote)
      fun entity => s!"{entity} plays emote {emote}"
  | .setField field value => proceed <| step.ask (step.source .any) (.setField · field value)
      fun entity => s!"{entity} field {field} = {value}"
  | .moveTo travelTime => proceed (step.moveTo travelTime)
  | .changeFlag set field mask => proceed <| step.ask (step.source .any)
      (.changeFlag set · field mask)
      fun entity => s!"{entity} field {field} mask " ++ hexText mask.toNat
  | .teleport map => proceed <| step.ask (step.targetOrSource .player)
      (.teleport · map step.instruction.position) fun player => s!"{player} to map {map}"
  | .exploreQuest quest distance => proceed (step.exploreQuest quest distance)
  | .killCredit creature group => proceed <| step.ask (step.targetOrSource .player)
      (.killCredit · creature group)
      fun player => s!"{player} credited for {creature} (group: {group})"
  | .respawnGameObject dbGuid despawnDelay => proceed do
      step.ask (step.objectOfSpawn (← world) dbGuid) (.respawnGameObject · despawnDelay)
        fun object => s!"respawning {object} (despawn in {despawnDelay}s)"
  | .summon creature despawnDelay limit limitDistance =>
      proceed (step.summon creature despawnDelay limit limitDistance)
  | .useDoor opening dbGuid resetDelay => proceed do
      step.ask (step.objectOfSpawn (← world) dbGuid) (.useDoor · opening resetDelay)
        fun door => s!"{door} (reset after {resetDelay}s)"
  | .activateObject => proceed step.activateObject
  | .removeAura spell fromSource => proceed <|
      step.ask (if fromSource then step.source .unit else step.target .unit) (.removeAura · spell)
        fun entity => s!"aura {spell} removed from {entity}"
  | .castSpell spell direction triggered => proceed (step.castSpell spell direction triggered)
  | .playSound sound targetOnly distanceDependent =>
      proceed (step.playSound sound targetOnly distanceDependent)
  | .createItem item amount => proceed <| step.ask (step.targetOrSource .player)
      (.createItem · item amount) fun player => s!"{amount}x {item} for {player}"
  | .despawnSelf delay => proceed <| step.ask (step.sourceOrTarget .creature) (.despawn · delay)
      fun entity => s!"{entity} despawns in {delay}ms"
  | .playMovie movie => proceed <| step.ask (step.target .player) (.playMovie · movie)
      fun player => s!"movie {movie} for {player}"
  | .movement type => proceed <| step.ask (step.sourceOrTarget .creature)
      (.setMovement · type step.additional)
      fun creature => s!"{creature} now uses {type.name} movement"
  | .setActive active => proceed <| step.ask (step.source .creature) (.setActive · active)
      fun entity => s!"{entity} active = {active}"
  | .setFaction faction => proceed <| step.ask (step.source .creature) (.setFaction · faction)
      fun creature =>
        if faction = 0 then s!"{creature} faction restored" else s!"{creature} faction = {faction}"
  | .changeDisplay mounted entryOrModel =>
      let display := step.display entryOrModel
      proceed <| step.ask (step.source .creature) (.changeDisplay mounted · display)
        fun creature => s!"{creature} {display.describe}"
  | .setRun run => proceed <| step.ask (step.source .creature) (.setRun · run)
      fun creature => s!"{creature} run = {run}"
  | .attackStart => proceed step.attackStart
  | .lockGameObject state => proceed <| step.ask (step.source .gameObject) (.lockGameObject · state)
      fun object => s!"{object} {state.describe}"
  | .standState stand => proceed <| step.ask (step.source .unit) (.standState · stand)
      fun entity => s!"{entity} stand state {stand}"
  | .modifyNpcFlags flags op => proceed <| step.ask (step.source .creature)
      (.modifyNpcFlags · flags op)
      fun creature => s!"{creature} {op.name} " ++ hexText flags.toNat
  | .sendTaxiPath path => proceed <| step.ask (step.targetOrSource .player) (.sendTaxiPath · path)
      fun player => s!"{player} on taxi path {path}"
  | .terminateScript creature searchDistance waitShift =>
      step.terminateScript creature searchDistance waitShift
  | .pauseWaypoints pause => proceed <| step.ask (step.source .creature) (.pauseWaypoints · pause)
      fun creature => s!"{creature} waypoints paused = {pause}"
  | .reserved => fail (.undispatchable step.tag)
  | .terminateOnCondition condition failedQuest => step.terminateOnCondition condition failedQuest
  | .sendAiEvent event radius => proceed (step.sendAiEvent event radius)
  | .setFacing reset => proceed (step.setFacing reset)
  | .moveDynamic maxDistance minDistance => proceed (step.moveDynamic maxDistance minDistance)
  | .sendMail template altSender delay => proceed <| step.ask (step.target .player)
      (fun player => .sendMail (step.roles.source.filter (· != player)) player template altSender
        (.ofNat delay.toInt.toNat))
      fun player => s!"mail template {template} to {player}"
  | .setFly fly => proceed <| step.ask (step.source .creature) (.setFly · fly step.additional)
      fun creature => s!"{creature} fly = {fly}"
  | .despawnGameObject => proceed <| step.ask (step.target .gameObject) .despawnGameObject
      fun object => s!"{object} despawned"
  | .respawn => proceed <| step.ask (step.source .creature) .respawn
      fun creature => s!"{creature} respawned"
  | .setEquipment reset slots => proceed <| step.ask (step.source .creature)
      (.setEquipment · reset slots)
      fun creature => s!"{creature} equipment " ++ listText slots.toList ++ s!" (reset: {reset})"
  | .resetGameObject => proceed <| step.ask (step.target .gameObject) .resetGameObject
      fun object => s!"{object} reset"
  | .updateTemplate entry team => proceed <| step.ask (step.source .creature)
      (.updateTemplate · entry team)
      fun creature => s!"{creature} now uses template {entry} ({team.name})"

end Step

end WorldScripts
