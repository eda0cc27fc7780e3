import WorldScripts.Binary32.Decimal
import WorldScripts.Command
import WorldScripts.Position

/-!
Effects: the changes that commands ask of the world, with every role filled in.
-/

namespace WorldScripts

inductive DisplayChange where
  /-- Back to its own looks, or off its mount. -/
  | restore
  | entry (template : UInt32)
  | model (display : UInt32)
  deriving DecidableEq, Repr

def DisplayChange.describe : DisplayChange → String
  | .restore => "Restore"
  | .entry template => s!"Entry({template})"
  | .model display => s!"Model({display})"

inductive Facing where
  | toward (target : Guid) (locked : Bool)
  | orientation (angle : Float32)
  | reset
  deriving DecidableEq

def Facing.describe : Facing → String
  | .toward target locked =>
      "Toward \x7b target: " ++ target.fieldsText ++ s!", lock_target: {locked} " ++ "\x7d"
  | .orientation angle => "Orientation(" ++ Binary32.literalText angle ++ ")"
  | .reset => "Reset"

inductive Effect where
  | say (speaker : Guid) (target : Option Guid) (text : Int32) (chat : ChatType)
      (language : UInt32)
  | emote (entity : Guid) (emoteId : UInt32)
  /-- With a listener, nobody else hears the sound. -/
  | playSound (origin : Guid) (sound : UInt32) (listener : Option Guid) (distanceDependent : Bool)
  | setField (entity : Guid) (field value : UInt32)
  | changeFlag (set : Bool) (entity : Guid) (field mask : UInt32)
  | moveTo (entity : Guid) (destination : Position) (travelTime : UInt32)
  | teleport (player : Guid) (map : UInt32) (destination : Position)
  | exploreArea (player : Guid) (quest : UInt32)
  | failQuest (player : Guid) (quest : UInt32)
  | killCredit (player : Guid) (creature : UInt32) (group : Bool)
  | respawnGameObject (object : Guid) (despawnDelay : Int32)
  | summon (summoner : Guid) (creature : UInt32) (position : Position) (despawnDelay : UInt32)
      (active : Bool)
  | useDoor (door : Guid) (opening : Bool) (resetDelay : Int32)
  | activateObject (object activator : Guid)
  | removeAura (entity : Guid) (spell : UInt32)
  | castSpell (caster target : Guid) (spell : UInt32) (triggered interrupts : Bool)
  | createItem (player : Guid) (item amount : UInt32)
  | despawn (entity : Guid) (delay : UInt32)
  | playMovie (player : Guid) (movie : UInt32)
  | setMovement (creature : Guid) (type : MovementType) (aroundCurrent : Bool)
  | setActive (entity : Guid) (active : Bool)
  /-- Faction zero is that of the template. -/
  | setFaction (creature : Guid) (faction : UInt32)
  | changeDisplay (mounted : Bool) (creature : Guid) (display : DisplayChange)
  | setRun (creature : Guid) (run : Bool)
  | attack (attacker victim : Guid)
  | lockGameObject (object : Guid) (state : LockState)
  | standState (entity : Guid) (stand : UInt32)
  | modifyNpcFlags (creature : Guid) (flags : UInt32) (op : NpcFlagOp)
  | sendTaxiPath (player : Guid) (path : UInt32)
  | shiftWaypointWait (creature : Guid) (shift : Int32)
  | pauseWaypoints (creature : Guid) (pause : Bool)
  /-- A radius of zero reaches the invoker alone. -/
  | sendAiEvent (sender invoker : Guid) (event radius : UInt32)
  | setFacing (creature : Guid) (facing : Facing)
  | sendMail (sender : Option Guid) (player : Guid) (template altSender delay : UInt32)
  | setFly (creature : Guid) (fly alwaysStand : Bool)
  | despawnGameObject (object : Guid)
  | respawn (creature : Guid)
  | setEquipment (creature : Guid) (reset : Bool) (slots : Vector Int32 3)
  | resetGameObject (object : Guid)
  | updateTemplate (creature : Guid) (entry : UInt32) (team : Team)
  deriving DecidableEq

end WorldScripts
