import WorldScripts.Binary32.Circular
import WorldScripts.Draws
import WorldScripts.Step.Roles

/-!
What a command finds out before it asks anything of the world: who has which role, where somebody is, where
a move ends, whether a search ends the script.
-/

namespace WorldScripts

structure Step where
  instruction : Instruction
  roles : Roles

namespace Step

def tag (step : Step) : Tag :=
  step.instruction.tag

def additional (step : Step) : Bool :=
  step.instruction.flags.additional

def require (step : Step) (role : Role) (guid? : Option Guid) (capacity : Capacity) :
    Except StepError Guid :=
  match guid? with
  | none => .error (.missingRole step.tag role)
  | some guid =>
      if capacity.admits guid.kind then .ok guid
      else .error (.wrongRole step.tag role guid capacity)

def source (step : Step) (capacity : Capacity) : Except StepError Guid :=
  step.require .source step.roles.source capacity

def target (step : Step) (capacity : Capacity) : Except StepError Guid :=
  step.require .target step.roles.target capacity

/-- The first of two candidates that is able. -/
def either (step : Step) (capacity : Capacity) (first second : Option Guid) :
    Except StepError Guid :=
  match (first.toList ++ second.toList).find? fun guid => capacity.admits guid.kind with
  | some guid => .ok guid
  | none => .error (.missingRole step.tag (.either capacity))

def targetOrSource (step : Step) (capacity : Capacity) : Except StepError Guid :=
  step.either capacity step.roles.target step.roles.source

def sourceOrTarget (step : Step) (capacity : Capacity) : Except StepError Guid :=
  step.either capacity step.roles.source step.roles.target

def positionOf (step : Step) (world : World) (guid : Guid) : Except StepError Position :=
  match world.positionOf? guid with
  | some position => .ok position
  | none => .error (.entityGone step.tag guid)

def objectOfSpawn (step : Step) (world : World) (dbGuid : UInt32) : Except StepError Guid :=
  match world.findByDbGuid? .gameObject dbGuid with
  | some object => .ok object
  | none => .error (.spawnNotFound step.tag dbGuid)

/-- The speaker of a text and whom it is for. A whisper needs a player. -/
def audience (step : Step) (chat : ChatType) : Except StepError (Guid × Option Guid) := do
  let speaker ← step.source .any
  let target ← if chat.isWhisper then some <$> step.target .player else .ok step.roles.target
  .ok (speaker, target)

def dynamicRange (maxDistance minDistance : UInt32) : Float32 × Float32 :=
  ((min minDistance maxDistance).toFloat32, maxDistance.toFloat32)

def fullTurn : Float32 := 6.2831855

/-- The direction of a dynamic move: that of the row, counted from where the target looks if the
row is additional. A row without a direction leaves it to chance. -/
def dynamicAngle (step : Step) (center : Position) (draws : Draws) : Float32 × Draws :=
  let orientation := step.instruction.position.o
  if step.additional then (center.o + orientation, draws)
  else if orientation != 0 then (orientation, draws)
  else draws.between 0 fullTurn

def dynamicPoint (step : Step) (center : Position) (maxDistance minDistance : UInt32)
    (draws : Draws) : Position × Draws :=
  if maxDistance = 0 then (center, draws)
  else
    let (low, high) := dynamicRange maxDistance minDistance
    let (distance, draws) := draws.between low high
    let (angle, draws) := step.dynamicAngle center draws
    ({ center with
      x := center.x + distance * Binary32.cos angle
      y := center.y + distance * Binary32.sin angle }, draws)

def coordinatesText (values : List Float32) : String :=
  "(" ++ ", ".intercalate (values.map Binary32.tenthsText) ++ ")"

def destination (step : Step) (world : World) : Except StepError Position :=
  if step.additional then do step.positionOf world (← step.target .any)
  else .ok step.instruction.position

/-- Whoever is in a quest besides the player who explores: no player, and not the same entity. -/
def questGiver (step : Step) (player : Guid) : Except StepError Guid :=
  let candidates := step.roles.source.toList ++ step.roles.target.toList
  match candidates.find? fun guid => guid ≠ player ∧ guid.kind ≠ .player with
  | some guid => .ok guid
  | none => .error (.missingRole step.tag .other)

def isNear (step : Step) (world : World) (other player : Guid) (distance : UInt32) :
    Except StepError Bool :=
  if distance = 0 then .ok true
  else do
    let origin ← step.positionOf world other
    let place ← step.positionOf world player
    .ok (decide (origin.distance place ≤ distance.toFloat32))

def castRoles (step : Step) : CastDirection → Except StepError (Guid × Guid)
  | .sourceToTarget => do .ok (← step.source .unit, ← step.target .any)
  | .sourceToSource => do
      let caster ← step.source .unit
      .ok (caster, caster)
  | .targetToTarget => do
      let caster ← step.target .unit
      .ok (caster, caster)
  | .targetToSource => do .ok (← step.target .unit, ← step.source .any)

def listener (step : Step) (targetOnly : Bool) : Except StepError (Option Guid) :=
  if targetOnly then some <$> step.target .player else .ok none

def display (step : Step) (entryOrModel : UInt32) : DisplayChange :=
  if entryOrModel = 0 then .restore
  else if step.additional then .model entryOrModel
  else .entry entryOrModel

def facing (step : Step) (reset : Bool) : Except StepError Facing :=
  if reset then .ok .reset
  else if step.additional then do .ok (.toward (← step.target .unit) true)
  else .ok <| match step.roles.target with
    | some target => .toward target false
    | none => .orientation step.instruction.position.o

/-- Whether a search for a creature lets the script end. By default it ends when nothing is found,
an additional row ends it when something is. -/
def searchEnds (step : Step) (world : World) (creature searchDistance : UInt32) :
    Except StepError Bool :=
  if creature = 0 then .ok true
  else
    match step.roles.source.or step.roles.target with
    | none => .error (.missingRole step.tag .searcher)
    | some searcher =>
        let found := world.findNearest? searcher {
          kind := .creature
          entry := creature
          radius := searchDistance.toFloat32
          includeDead := false }
        .ok (found.isSome == step.additional)

end Step

end WorldScripts
