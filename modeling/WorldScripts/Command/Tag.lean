import WorldScripts.Command.Column
import WorldScripts.Guid

/-!
Command tags, and everything about a command that its tag alone decides.
-/

namespace WorldScripts

inductive Tag where
  | talk
  | emote
  | fieldSet
  | moveTo
  | flagSet
  | flagRemove
  | teleportTo
  | questExplored
  | killCredit
  | respawnGameObject
  | tempSummonCreature
  | openDoor
  | closeDoor
  | activateObject
  | removeAura
  | castSpell
  | playSound
  | createItem
  | despawnSelf
  | playMovie
  | movement
  | setActiveObject
  | setFaction
  | morph
  | mount
  | setRun
  | attackStart
  | goLockState
  | standState
  | modifyNpcFlags
  | sendTaxiPath
  | terminateScript
  | pauseWaypoints
  | reserved
  | terminateCond
  | sendAiEvent
  | setFacing
  | moveDynamic
  | sendMail
  | setFly
  | despawnGameObject
  | respawn
  | setEquipment
  | resetGameObject
  | updateTemplate
  deriving DecidableEq, Repr

structure Traits where
  name : String
  /-- The columns the command reads. -/
  columns : List Column
  buddy : BuddyKind := .creature
  /-- The flag for an additional meaning may be set. -/
  additional : Bool := false
  /-- The second and third column may hold the buddy in its older spelling. -/
  legacyBuddy : Bool := false
  /-- The command may appear in a table. -/
  loadable : Bool := true

namespace Tag

def all : List Tag :=
  [.talk, .emote, .fieldSet, .moveTo, .flagSet, .flagRemove, .teleportTo, .questExplored,
    .killCredit, .respawnGameObject, .tempSummonCreature, .openDoor, .closeDoor, .activateObject,
    .removeAura, .castSpell, .playSound, .createItem, .despawnSelf, .playMovie, .movement,
    .setActiveObject, .setFaction, .morph, .mount, .setRun, .attackStart, .goLockState,
    .standState, .modifyNpcFlags, .sendTaxiPath, .terminateScript, .pauseWaypoints, .reserved,
    .terminateCond, .sendAiEvent, .setFacing, .moveDynamic, .sendMail, .setFly,
    .despawnGameObject, .respawn, .setEquipment, .resetGameObject, .updateTemplate]

def number : Tag → Nat
  | .talk => 0
  | .emote => 1
  | .fieldSet => 2
  | .moveTo => 3
  | .flagSet => 4
  | .flagRemove => 5
  | .teleportTo => 6
  | .questExplored => 7
  | .killCredit => 8
  | .respawnGameObject => 9
  | .tempSummonCreature => 10
  | .openDoor => 11
  | .closeDoor => 12
  | .activateObject => 13
  | .removeAura => 14
  | .castSpell => 15
  | .playSound => 16
  | .createItem => 17
  | .despawnSelf => 18
  | .playMovie => 19
  | .movement => 20
  | .setActiveObject => 21
  | .setFaction => 22
  | .morph => 23
  | .mount => 24
  | .setRun => 25
  | .attackStart => 26
  | .goLockState => 27
  | .standState => 28
  | .modifyNpcFlags => 29
  | .sendTaxiPath => 30
  | .terminateScript => 31
  | .pauseWaypoints => 32
  | .reserved => 33
  | .terminateCond => 34
  | .sendAiEvent => 35
  | .setFacing => 36
  | .moveDynamic => 37
  | .sendMail => 38
  | .setFly => 39
  | .despawnGameObject => 40
  | .respawn => 41
  | .setEquipment => 42
  | .resetGameObject => 43
  | .updateTemplate => 44

def ofNumber? (n : UInt32) : Option Tag :=
  all[n.toNat]?

open Column in
def traits : Tag → Traits
  | .talk => { name := "TALK", columns := Column.all, legacyBuddy := true }
  | .emote => { name := "EMOTE", columns := [datalong, datalong2, datalong3], legacyBuddy := true }
  | .fieldSet => { name := "FIELD_SET", columns := [datalong, datalong2] }
  | .moveTo => { name := "MOVE_TO", columns := [datalong2], additional := true }
  | .flagSet => { name := "FLAG_SET", columns := [datalong, datalong2] }
  | .flagRemove => { name := "FLAG_REMOVE", columns := [datalong, datalong2] }
  | .teleportTo => { name := "TELEPORT_TO", columns := [datalong] }
  | .questExplored => { name := "QUEST_EXPLORED", columns := [datalong, datalong2] }
  | .killCredit => { name := "KILL_CREDIT", columns := [datalong, datalong2] }
  | .respawnGameObject =>
      { name := "RESPAWN_GAMEOBJECT", columns := [datalong, datalong2], buddy := .gameObject }
  | .tempSummonCreature =>
      { name := "TEMP_SUMMON_CREATURE", columns := [datalong, datalong2, datalong3, datalong4]
        additional := true }
  | .openDoor => { name := "OPEN_DOOR", columns := [datalong, datalong2], buddy := .gameObject }
  | .closeDoor => { name := "CLOSE_DOOR", columns := [datalong, datalong2], buddy := .gameObject }
  | .activateObject => { name := "ACTIVATE_OBJECT", columns := [], buddy := .gameObject }
  | .removeAura => { name := "REMOVE_AURA", columns := [datalong, datalong2] }
  | .castSpell => { name := "CAST_SPELL", columns := [datalong, datalong2], additional := true }
  | .playSound => { name := "PLAY_SOUND", columns := [datalong, datalong2] }
  | .createItem => { name := "CREATE_ITEM", columns := [datalong, datalong2] }
  | .despawnSelf => { name := "DESPAWN_SELF", columns := [datalong] }
  | .playMovie => { name := "PLAY_MOVIE", columns := [datalong] }
  | .movement =>
      { name := "MOVEMENT", columns := [datalong, datalong2, datalong3]
        additional := true, legacyBuddy := true }
  | .setActiveObject =>
      { name := "SET_ACTIVEOBJECT", columns := [datalong, datalong2, datalong3]
        legacyBuddy := true }
  | .setFaction =>
      { name := "SET_FACTION", columns := [datalong, datalong2, datalong3], legacyBuddy := true }
  | .morph =>
      { name := "MORPH_TO_ENTRY_OR_MODEL", columns := [datalong, datalong2, datalong3]
        additional := true, legacyBuddy := true }
  | .mount =>
      { name := "MOUNT_TO_ENTRY_OR_MODEL", columns := [datalong, datalong2, datalong3]
        additional := true, legacyBuddy := true }
  | .setRun =>
      { name := "SET_RUN", columns := [datalong, datalong2, datalong3], legacyBuddy := true }
  | .attackStart =>
      { name := "ATTACK_START", columns := [datalong2, datalong3], legacyBuddy := true }
  | .goLockState =>
      { name := "GO_LOCK_STATE", columns := [datalong, datalong2, datalong3]
        buddy := .gameObject, legacyBuddy := true }
  | .standState =>
      { name := "STAND_STATE", columns := [datalong, datalong2, datalong3], legacyBuddy := true }
  | .modifyNpcFlags => { name := "MODIFY_NPC_FLAGS", columns := [datalong, datalong2] }
  | .sendTaxiPath => { name := "SEND_TAXI_PATH", columns := [datalong] }
  | .terminateScript =>
      { name := "TERMINATE_SCRIPT", columns := [datalong, datalong2, dataint]
        additional := true }
  | .pauseWaypoints => { name := "PAUSE_WAYPOINTS", columns := [datalong] }
  | .reserved => { name := "RESERVED_1", columns := [], loadable := false }
  | .terminateCond =>
      { name := "TERMINATE_COND", columns := [datalong, datalong2], additional := true }
  | .sendAiEvent => { name := "SEND_AI_EVENT", columns := [datalong, datalong2] }
  | .setFacing => { name := "SET_FACING", columns := [datalong], additional := true }
  | .moveDynamic => { name := "MOVE_DYNAMIC", columns := [datalong, datalong2], additional := true }
  | .sendMail => { name := "SEND_MAIL", columns := [datalong, datalong2, dataint] }
  | .setFly => { name := "SET_FLY", columns := [datalong], additional := true }
  | .despawnGameObject => { name := "DESPAWN_GO", columns := [], buddy := .gameObject }
  | .respawn => { name := "RESPAWN", columns := [] }
  | .setEquipment =>
      { name := "SET_EQUIPMENT_SLOTS", columns := [datalong, dataint, dataint2, dataint3] }
  | .resetGameObject => { name := "RESET_GO", columns := [], buddy := .gameObject }
  | .updateTemplate => { name := "UPDATE_TEMPLATE", columns := [datalong, datalong2] }

def name (tag : Tag) : String :=
  tag.traits.name

def describe (tag : Tag) : String :=
  tag.name ++ " (" ++ toString tag.number ++ ")"

theorem getElem?_all_number (tag : Tag) : all[tag.number]? = some tag := by
  cases tag <;> rfl

theorem number_lt (tag : Tag) : tag.number < all.length := by
  cases tag <;> decide

end Tag

instance : ToString Tag := ⟨Tag.describe⟩

end WorldScripts
