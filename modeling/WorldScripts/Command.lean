import WorldScripts.Command.Tag
import WorldScripts.Command.LockState
import WorldScripts.Text.Chat

/-!
Commands with their parameters.
-/

namespace WorldScripts

inductive MovementType where
  | idle
  | random
  | waypoint
  deriving DecidableEq, Repr

def MovementType.name : MovementType → String
  | .idle => "Idle"
  | .random => "Random"
  | .waypoint => "Waypoint"

inductive CastDirection where
  | sourceToTarget
  | sourceToSource
  | targetToTarget
  | targetToSource
  deriving DecidableEq, Repr

def CastDirection.name : CastDirection → String
  | .sourceToTarget => "SourceToTarget"
  | .sourceToSource => "SourceToSource"
  | .targetToTarget => "TargetToTarget"
  | .targetToSource => "TargetToSource"

inductive NpcFlagOp where
  | toggle
  | add
  | remove
  deriving DecidableEq, Repr

def NpcFlagOp.name : NpcFlagOp → String
  | .toggle => "Toggle"
  | .add => "Add"
  | .remove => "Remove"

inductive Team where
  | alliance
  | horde
  deriving DecidableEq, Repr

def Team.name : Team → String
  | .alliance => "Alliance"
  | .horde => "Horde"

inductive Command where
  | talk (chat : ChatType) (language : UInt32) (texts : Vector Int32 4)
  | emote (emote : UInt32)
  | setField (field value : UInt32)
  /-- The way leads to the position of the row, or to the target when the row is additional. -/
  | moveTo (travelTime : UInt32)
  | changeFlag (set : Bool) (field mask : UInt32)
  | teleport (map : UInt32)
  | exploreQuest (quest distance : UInt32)
  | killCredit (creature : UInt32) (group : Bool)
  | respawnGameObject (dbGuid : UInt32) (despawnDelay : Int32)
  | summon (creature despawnDelay limit limitDistance : UInt32)
  | useDoor (opening : Bool) (dbGuid : UInt32) (resetDelay : Int32)
  | activateObject
  | removeAura (spell : UInt32) (fromSource : Bool)
  | castSpell (spell : UInt32) (direction : CastDirection) (triggered : Bool)
  | playSound (sound : UInt32) (targetOnly distanceDependent : Bool)
  | createItem (item amount : UInt32)
  | despawnSelf (delay : UInt32)
  | playMovie (movie : UInt32)
  | movement (type : MovementType)
  | setActive (active : Bool)
  /-- Faction zero is that of the template. -/
  | setFaction (faction : UInt32)
  /-- Morphs the creature or mounts it; zero undoes that, and an additional row names a display
  instead of a template. -/
  | changeDisplay (mounted : Bool) (entryOrModel : UInt32)
  | setRun (run : Bool)
  | attackStart
  | lockGameObject (state : LockState)
  | standState (state : UInt32)
  | modifyNpcFlags (flags : UInt32) (op : NpcFlagOp)
  | sendTaxiPath (path : UInt32)
  /-- Without a creature to look for, the script ends in any case. -/
  | terminateScript (creature searchDistance : UInt32) (waitShift : Int32)
  | pauseWaypoints (pause : Bool)
  | reserved
  | terminateOnCondition (condition failedQuest : UInt32)
  | sendAiEvent (event radius : UInt32)
  | setFacing (reset : Bool)
  | moveDynamic (maxDistance minDistance : UInt32)
  | sendMail (template altSender : UInt32) (delay : Int32)
  | setFly (fly : Bool)
  | despawnGameObject
  | respawn
  | setEquipment (reset : Bool) (slots : Vector Int32 3)
  | resetGameObject
  | updateTemplate (entry : UInt32) (team : Team)
  deriving DecidableEq, Repr

namespace Command

def tag : Command → Tag
  | .talk .. => .talk
  | .emote .. => .emote
  | .setField .. => .fieldSet
  | .moveTo .. => .moveTo
  | .changeFlag true .. => .flagSet
  | .changeFlag false .. => .flagRemove
  | .teleport .. => .teleportTo
  | .exploreQuest .. => .questExplored
  | .killCredit .. => .killCredit
  | .respawnGameObject .. => .respawnGameObject
  | .summon .. => .tempSummonCreature
  | .useDoor true .. => .openDoor
  | .useDoor false .. => .closeDoor
  | .activateObject => .activateObject
  | .removeAura .. => .removeAura
  | .castSpell .. => .castSpell
  | .playSound .. => .playSound
  | .createItem .. => .createItem
  | .despawnSelf .. => .despawnSelf
  | .playMovie .. => .playMovie
  | .movement .. => .movement
  | .setActive .. => .setActiveObject
  | .setFaction .. => .setFaction
  | .changeDisplay false .. => .morph
  | .changeDisplay true .. => .mount
  | .setRun .. => .setRun
  | .attackStart => .attackStart
  | .lockGameObject .. => .goLockState
  | .standState .. => .standState
  | .modifyNpcFlags .. => .modifyNpcFlags
  | .sendTaxiPath .. => .sendTaxiPath
  | .terminateScript .. => .terminateScript
  | .pauseWaypoints .. => .pauseWaypoints
  | .reserved => .reserved
  | .terminateOnCondition .. => .terminateCond
  | .sendAiEvent .. => .sendAiEvent
  | .setFacing .. => .setFacing
  | .moveDynamic .. => .moveDynamic
  | .sendMail .. => .sendMail
  | .setFly .. => .setFly
  | .despawnGameObject => .despawnGameObject
  | .respawn => .respawn
  | .setEquipment .. => .setEquipment
  | .resetGameObject => .resetGameObject
  | .updateTemplate .. => .updateTemplate

/-- The texts a command chooses from: the columns of a `TALK` that are not zero. -/
def texts : Command → List Int32
  | .talk _ _ texts => texts.toList.filter (· != 0)
  | _ => []

def gameObjectSpawn? : Command → Option UInt32
  | .respawnGameObject dbGuid _ | .useDoor _ dbGuid _ => some dbGuid
  | _ => none

end Command

end WorldScripts
