import WorldScripts.Decode
import WorldScripts.Exchange.Basic

/-!
The exchange form of rows, instructions and the faults of rows.
-/

namespace WorldScripts

def Row.ofJson (json : Json) : Row where
  id := json.word "id"
  delay := json.word "delay"
  command := json.word "command"
  datalong := json.word "datalong"
  datalong2 := json.word "datalong2"
  datalong3 := json.word "datalong3"
  datalong4 := json.word "datalong4"
  dataint := json.signed "dataint"
  dataint2 := json.signed "dataint2"
  dataint3 := json.signed "dataint3"
  dataint4 := json.signed "dataint4"
  x := json.float "x"
  y := json.float "y"
  z := json.float "z"
  o := json.float "o"
  buddyEntry := json.word "buddy_entry"
  searchRadiusOrGuid := json.word "search_radius_or_guid"
  dataFlags := (json.field "data_flags").toUInt8

def DecodeOptions.ofJson (json : Json) : DecodeOptions :=
  match json.field "max_search_radius" with
  | .null => {}
  | radius => ⟨radius.toFloat32⟩

def Tag.variant : Tag → String
  | .talk => "Talk"
  | .emote => "Emote"
  | .fieldSet => "FieldSet"
  | .moveTo => "MoveTo"
  | .flagSet => "FlagSet"
  | .flagRemove => "FlagRemove"
  | .teleportTo => "TeleportTo"
  | .questExplored => "QuestExplored"
  | .killCredit => "KillCredit"
  | .respawnGameObject => "RespawnGameObject"
  | .tempSummonCreature => "TempSummonCreature"
  | .openDoor => "OpenDoor"
  | .closeDoor => "CloseDoor"
  | .activateObject => "ActivateObject"
  | .removeAura => "RemoveAura"
  | .castSpell => "CastSpell"
  | .playSound => "PlaySound"
  | .createItem => "CreateItem"
  | .despawnSelf => "DespawnSelf"
  | .playMovie => "PlayMovie"
  | .movement => "Movement"
  | .setActiveObject => "SetActiveObject"
  | .setFaction => "SetFaction"
  | .morph => "MorphToEntryOrModel"
  | .mount => "MountToEntryOrModel"
  | .setRun => "SetRun"
  | .attackStart => "AttackStart"
  | .goLockState => "GoLockState"
  | .standState => "StandState"
  | .modifyNpcFlags => "ModifyNpcFlags"
  | .sendTaxiPath => "SendTaxiPath"
  | .terminateScript => "TerminateScript"
  | .pauseWaypoints => "PauseWaypoints"
  | .reserved => "Reserved1"
  | .terminateCond => "TerminateCond"
  | .sendAiEvent => "SendAiEvent"
  | .setFacing => "SetFacing"
  | .moveDynamic => "MoveDynamic"
  | .sendMail => "SendMail"
  | .setFly => "SetFly"
  | .despawnGameObject => "DespawnGameObject"
  | .respawn => "Respawn"
  | .setEquipment => "SetEquipmentSlots"
  | .resetGameObject => "ResetGameObject"
  | .updateTemplate => "UpdateTemplate"

namespace Command

def fields : Command → List (String × Json)
  | .talk chat language texts =>
      [("chat_type", chat.name), ("language", .ofWord language),
        ("text_ids", .ofList .ofSigned texts.toList)]
  | .emote emoteId => [("emote_id", .ofWord emoteId)]
  | .setField field value => [("field", .ofWord field), ("value", .ofWord value)]
  | .moveTo travelTime => [("travel_time", .ofWord travelTime)]
  | .changeFlag _ field mask => [("field", .ofWord field), ("mask", .ofWord mask)]
  | .teleport map => [("map_id", .ofWord map)]
  | .exploreQuest quest distance => [("quest_id", .ofWord quest), ("distance", .ofWord distance)]
  | .killCredit creature group =>
      [("creature_entry", .ofWord creature), ("group_credit", .bool group)]
  | .respawnGameObject dbGuid despawnDelay =>
      [("db_guid", .ofWord dbGuid), ("despawn_delay", .ofSigned despawnDelay)]
  | .summon creature despawnDelay limit limitDistance =>
      [("creature_entry", .ofWord creature), ("despawn_delay", .ofWord despawnDelay),
        ("unique_limit", .ofWord limit), ("unique_distance", .ofWord limitDistance)]
  | .useDoor _ dbGuid resetDelay =>
      [("db_guid", .ofWord dbGuid), ("reset_delay", .ofSigned resetDelay)]
  | .activateObject => []
  | .removeAura spell fromSource =>
      [("spell_id", .ofWord spell), ("from_source", .bool fromSource)]
  | .castSpell spell direction triggered =>
      [("spell_id", .ofWord spell), ("direction", direction.name), ("triggered", .bool triggered)]
  | .playSound sound targetOnly distanceDependent =>
      [("sound_id", .ofWord sound), ("target_only", .bool targetOnly),
        ("distance_dependent", .bool distanceDependent)]
  | .createItem item amount => [("item_entry", .ofWord item), ("amount", .ofWord amount)]
  | .despawnSelf delay => [("despawn_delay", .ofWord delay)]
  | .playMovie movie => [("movie_id", .ofWord movie)]
  | .movement type => [("movement_type", type.name)]
  | .setActive active => [("active", .bool active)]
  | .setFaction faction => [("faction_id", .ofWord faction)]
  | .changeDisplay _ entryOrModel => [("entry_or_model", .ofWord entryOrModel)]
  | .setRun run => [("run", .bool run)]
  | .attackStart => []
  | .lockGameObject state => [("lock_state", .ofWord state.toNumber)]
  | .standState stand => [("stand_state", .ofWord stand)]
  | .modifyNpcFlags flags op => [("flags", .ofWord flags), ("op", op.name)]
  | .sendTaxiPath path => [("path_id", .ofWord path)]
  | .terminateScript creature searchDistance waitShift =>
      [("npc_entry", .ofWord creature), ("search_distance", .ofWord searchDistance),
        ("waypoint_wait_diff", .ofSigned waitShift)]
  | .pauseWaypoints pause => [("pause", .bool pause)]
  | .reserved => []
  | .terminateOnCondition condition failedQuest =>
      [("condition_id", .ofWord condition), ("fail_quest", .ofWord failedQuest)]
  | .sendAiEvent event radius => [("event_type", .ofWord event), ("radius", .ofWord radius)]
  | .setFacing reset => [("reset", .bool reset)]
  | .moveDynamic maxDistance minDistance =>
      [("max_dist", .ofWord maxDistance), ("min_dist", .ofWord minDistance)]
  | .sendMail template altSender delay =>
      [("template_id", .ofWord template), ("alt_sender", .ofWord altSender),
        ("delay_secs", .ofSigned delay)]
  | .setFly fly => [("fly", .bool fly)]
  | .despawnGameObject => []
  | .respawn => []
  | .setEquipment reset slots =>
      [("reset_default", .bool reset), ("slots", .ofList .ofSigned slots.toList)]
  | .resetGameObject => []
  | .updateTemplate entry team => [("entry", .ofWord entry), ("team", team.name)]

def toJson (command : Command) : Json :=
  .object [(command.tag.variant, .object command.fields)]

end Command

def Buddy.toJson (buddy : Buddy) : Json :=
  .object [("entry", .ofWord buddy.entry), ("radius_or_guid", .ofWord buddy.radiusOrGuid),
    ("kind", buddy.kind.toJson), ("set", .bool buddy.isSet)]

def Instruction.toJson (instruction : Instruction) : Json :=
  .object [("id", .ofWord instruction.key), ("delay", .ofWord instruction.delay),
    ("command", instruction.command.toJson), ("pos", instruction.position.toJson),
    ("buddy", instruction.buddy.toJson), ("flags", .ofNat instruction.flags.toByte.toNat)]

namespace DecodeError

def kind : DecodeError → String
  | .unknownCommand .. => "UnknownCommand"
  | .reservedCommand .. => "ReservedCommand"
  | .undefinedFlags .. => "InvalidFlags"
  | .additionalUnsupported .. => "UnsupportedAdditionalFlag"
  | .malformedBuddy .. => "MalformedBuddy"
  | .invalidValue .. => "InvalidValue"

def fields (error : DecodeError) : List (String × Json) :=
  [("error", error.kind), ("message", error.message), ("row_id", .ofWord error.key)]

def toJson (error : DecodeError) : Json :=
  .object error.fields

end DecodeError

end WorldScripts
