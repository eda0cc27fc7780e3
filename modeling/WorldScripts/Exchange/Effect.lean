import WorldScripts.Exchange.Basic
import WorldScripts.World.Effect

/-!
The exchange form of effects: an object with one field, the name of the effect, that holds what the
effect is about.
-/

namespace WorldScripts

/-- The value with the given name; a name that none has means the one that comes first. -/
def Json.toNamed {α : Type} [Inhabited α] (json : Json) (values : List α) (name : α → String) :
    α :=
  (values.find? fun value => name value == json.text).getD (values.headD default)

instance : Inhabited ChatType := ⟨.say⟩
instance : Inhabited MovementType := ⟨.idle⟩
instance : Inhabited NpcFlagOp := ⟨.toggle⟩
instance : Inhabited Team := ⟨.alliance⟩

def ChatType.ofJson (json : Json) : ChatType :=
  json.toNamed [.say, .yell, .textEmote, .bossEmote, .whisper, .bossWhisper, .zoneYell, .zoneEmote]
    ChatType.name

def MovementType.ofJson (json : Json) : MovementType :=
  json.toNamed [.idle, .random, .waypoint] MovementType.name

def NpcFlagOp.ofJson (json : Json) : NpcFlagOp :=
  json.toNamed [.toggle, .add, .remove] NpcFlagOp.name

def Team.ofJson (json : Json) : Team :=
  json.toNamed [.alliance, .horde] Team.name

namespace DisplayChange

def toJson : DisplayChange → Json
  | .restore => "Restore"
  | .entry template => .object [("Entry", .ofWord template)]
  | .model display => .object [("Model", .ofWord display)]

def ofJson (json : Json) : DisplayChange :=
  match json.field? "Entry", json.field? "Model" with
  | some template, _ => .entry template.toUInt32
  | none, some display => .model display.toUInt32
  | none, none => .restore

end DisplayChange

namespace Facing

def toJson : Facing → Json
  | .toward target locked =>
      .object [("Toward", .object [("target", target.toJson), ("lock_target", .bool locked)])]
  | .orientation angle => .object [("Orientation", .ofFloat32 angle)]
  | .reset => "Reset"

def ofJson (json : Json) : Facing :=
  match json.field? "Toward", json.field? "Orientation" with
  | some turn, _ => .toward (turn.guid "target") (turn.flag "lock_target")
  | none, some angle => .orientation angle.toFloat32
  | none, none => .reset

end Facing

namespace Effect

def slotsOfJson (json : Json) : Vector Int32 3 :=
  match json.items with
  | [a, b, c] => #v[a.toInt32, b.toInt32, c.toInt32]
  | _ => #v[0, 0, 0]

def toFields : Effect → String × List (String × Json)
  | .say speaker target text chat language =>
      ("Say", [("speaker", speaker.toJson), ("target", .ofGuid? target),
        ("text_id", .ofSigned text),
        ("chat_type", chat.name), ("language", .ofWord language)])
  | .emote entity emoteId => ("Emote", [("entity", entity.toJson), ("emote_id", .ofWord emoteId)])
  | .playSound origin sound listener distanceDependent =>
      ("PlaySound", [("source", origin.toJson), ("sound_id", .ofWord sound),
        ("listener", .ofGuid? listener), ("distance_dependent", .bool distanceDependent)])
  | .setField entity field value =>
      ("SetField", [("entity", entity.toJson), ("field", .ofWord field), ("value", .ofWord value)])
  | .changeFlag set entity field mask =>
      (if set then "SetFlag" else "RemoveFlag",
        [("entity", entity.toJson), ("field", .ofWord field), ("mask", .ofWord mask)])
  | .moveTo entity destination travelTime =>
      ("MoveTo", [("entity", entity.toJson), ("destination", destination.toJson),
        ("travel_time", .ofWord travelTime)])
  | .teleport player map destination =>
      ("Teleport", [("player", player.toJson), ("map_id", .ofWord map),
        ("destination", destination.toJson)])
  | .exploreArea player quest =>
      ("AreaExplored", [("player", player.toJson), ("quest_id", .ofWord quest)])
  | .failQuest player quest =>
      ("FailQuest", [("player", player.toJson), ("quest_id", .ofWord quest)])
  | .killCredit player creature group =>
      ("KillCredit", [("player", player.toJson), ("creature_entry", .ofWord creature),
        ("group", .bool group)])
  | .respawnGameObject object delay =>
      ("RespawnGameObject", [("gameobject", object.toJson), ("despawn_delay", .ofSigned delay)])
  | .summon summoner creature position delay active =>
      ("SummonCreature", [("summoner", summoner.toJson), ("creature_entry", .ofWord creature),
        ("position", position.toJson), ("despawn_delay", .ofWord delay), ("active", .bool active)])
  | .useDoor door opening delay =>
      ("UseDoor", [("door", door.toJson), ("open", .bool opening),
        ("reset_delay", .ofSigned delay)])
  | .activateObject object activator =>
      ("ActivateObject", [("gameobject", object.toJson), ("activator", activator.toJson)])
  | .removeAura entity spell =>
      ("RemoveAura", [("entity", entity.toJson), ("spell_id", .ofWord spell)])
  | .castSpell caster target spell triggered interrupts =>
      ("CastSpell", [("caster", caster.toJson), ("target", target.toJson),
        ("spell_id", .ofWord spell),
        ("triggered", .bool triggered), ("interrupt_previous", .bool interrupts)])
  | .createItem player item amount =>
      ("CreateItem", [("player", player.toJson), ("item_entry", .ofWord item),
        ("amount", .ofWord amount)])
  | .despawn entity delay => ("Despawn", [("entity", entity.toJson), ("delay_ms", .ofWord delay)])
  | .playMovie player movie =>
      ("PlayMovie", [("player", player.toJson), ("movie_id", .ofWord movie)])
  | .setMovement creature type around =>
      ("SetMovement", [("creature", creature.toJson), ("movement_type", type.name),
        ("around_current", .bool around)])
  | .setActive entity active => ("SetActive", [("entity", entity.toJson), ("active", .bool active)])
  | .setFaction creature faction =>
      ("SetFaction", [("creature", creature.toJson), ("faction_id", .ofWord faction)])
  | .changeDisplay mounted creature display =>
      (if mounted then "Mount" else "Morph",
        [("creature", creature.toJson), ("display", display.toJson)])
  | .setRun creature run => ("SetRun", [("creature", creature.toJson), ("run", .bool run)])
  | .attack attacker victim =>
      ("AttackStart", [("attacker", attacker.toJson), ("victim", victim.toJson)])
  | .lockGameObject object state =>
      ("SetGoLockState", [("gameobject", object.toJson), ("lock_state", .ofWord state.toNumber)])
  | .standState entity stand =>
      ("SetStandState", [("entity", entity.toJson), ("stand_state", .ofWord stand)])
  | .modifyNpcFlags creature flags op =>
      ("ModifyNpcFlags", [("creature", creature.toJson), ("flags", .ofWord flags), ("op", op.name)])
  | .sendTaxiPath player path =>
      ("SendTaxiPath", [("player", player.toJson), ("path_id", .ofWord path)])
  | .shiftWaypointWait creature shift =>
      ("AdjustWaypointWait", [("creature", creature.toJson), ("diff_ms", .ofSigned shift)])
  | .pauseWaypoints creature pause =>
      ("PauseWaypoints", [("creature", creature.toJson), ("pause", .bool pause)])
  | .sendAiEvent sender invoker event radius =>
      ("SendAiEvent", [("sender", sender.toJson), ("invoker", invoker.toJson),
        ("event_type", .ofWord event), ("radius", .ofWord radius)])
  | .setFacing creature facing =>
      ("SetFacing", [("creature", creature.toJson), ("facing", facing.toJson)])
  | .sendMail sender player template altSender delay =>
      ("SendMail", [("sender", .ofGuid? sender), ("player", player.toJson),
        ("template_id", .ofWord template), ("alt_sender", .ofWord altSender),
        ("delay_secs", .ofWord delay)])
  | .setFly creature fly alwaysStand =>
      ("SetFly", [("creature", creature.toJson), ("fly", .bool fly),
        ("always_stand", .bool alwaysStand)])
  | .despawnGameObject object => ("DespawnGameObject", [("gameobject", object.toJson)])
  | .respawn creature => ("Respawn", [("creature", creature.toJson)])
  | .setEquipment creature reset slots =>
      ("SetEquipment", [("creature", creature.toJson), ("reset_default", .bool reset),
        ("slots", .ofList .ofSigned slots.toList)])
  | .resetGameObject object => ("ResetGameObject", [("gameobject", object.toJson)])
  | .updateTemplate creature entry team =>
      ("UpdateTemplate", [("creature", creature.toJson), ("entry", .ofWord entry),
        ("team", team.name)])

def toJson (effect : Effect) : Json :=
  let (name, fields) := effect.toFields
  .object [(name, .object fields)]

def ofFields (name : String) (json : Json) : Effect :=
  match name with
  | "Say" =>
      .say (json.guid "speaker") (json.guid? "target") (json.signed "text_id")
        (.ofJson (json.field "chat_type")) (json.word "language")
  | "Emote" => .emote (json.guid "entity") (json.word "emote_id")
  | "PlaySound" =>
      .playSound (json.guid "source") (json.word "sound_id") (json.guid? "listener")
        (json.flag "distance_dependent")
  | "SetField" => .setField (json.guid "entity") (json.word "field") (json.word "value")
  | "SetFlag" => .changeFlag true (json.guid "entity") (json.word "field") (json.word "mask")
  | "RemoveFlag" => .changeFlag false (json.guid "entity") (json.word "field") (json.word "mask")
  | "MoveTo" =>
      .moveTo (json.guid "entity") (.ofJson (json.field "destination")) (json.word "travel_time")
  | "Teleport" =>
      .teleport (json.guid "player") (json.word "map_id") (.ofJson (json.field "destination"))
  | "AreaExplored" => .exploreArea (json.guid "player") (json.word "quest_id")
  | "FailQuest" => .failQuest (json.guid "player") (json.word "quest_id")
  | "KillCredit" =>
      .killCredit (json.guid "player") (json.word "creature_entry") (json.flag "group")
  | "RespawnGameObject" => .respawnGameObject (json.guid "gameobject") (json.signed "despawn_delay")
  | "SummonCreature" =>
      .summon (json.guid "summoner") (json.word "creature_entry") (.ofJson (json.field "position"))
        (json.word "despawn_delay") (json.flag "active")
  | "UseDoor" => .useDoor (json.guid "door") (json.flag "open") (json.signed "reset_delay")
  | "ActivateObject" => .activateObject (json.guid "gameobject") (json.guid "activator")
  | "RemoveAura" => .removeAura (json.guid "entity") (json.word "spell_id")
  | "CastSpell" =>
      .castSpell (json.guid "caster") (json.guid "target") (json.word "spell_id")
        (json.flag "triggered") (json.flag "interrupt_previous")
  | "CreateItem" => .createItem (json.guid "player") (json.word "item_entry") (json.word "amount")
  | "Despawn" => .despawn (json.guid "entity") (json.word "delay_ms")
  | "PlayMovie" => .playMovie (json.guid "player") (json.word "movie_id")
  | "SetMovement" =>
      .setMovement (json.guid "creature") (.ofJson (json.field "movement_type"))
        (json.flag "around_current")
  | "SetActive" => .setActive (json.guid "entity") (json.flag "active")
  | "SetFaction" => .setFaction (json.guid "creature") (json.word "faction_id")
  | "Morph" => .changeDisplay false (json.guid "creature") (.ofJson (json.field "display"))
  | "Mount" => .changeDisplay true (json.guid "creature") (.ofJson (json.field "display"))
  | "SetRun" => .setRun (json.guid "creature") (json.flag "run")
  | "AttackStart" => .attack (json.guid "attacker") (json.guid "victim")
  | "SetGoLockState" =>
      .lockGameObject (json.guid "gameobject")
        ((LockState.ofNumber? (json.word "lock_state")).getD {})
  | "SetStandState" => .standState (json.guid "entity") (json.word "stand_state")
  | "ModifyNpcFlags" =>
      .modifyNpcFlags (json.guid "creature") (json.word "flags") (.ofJson (json.field "op"))
  | "SendTaxiPath" => .sendTaxiPath (json.guid "player") (json.word "path_id")
  | "AdjustWaypointWait" => .shiftWaypointWait (json.guid "creature") (json.signed "diff_ms")
  | "PauseWaypoints" => .pauseWaypoints (json.guid "creature") (json.flag "pause")
  | "SendAiEvent" =>
      .sendAiEvent (json.guid "sender") (json.guid "invoker") (json.word "event_type")
        (json.word "radius")
  | "SetFacing" => .setFacing (json.guid "creature") (.ofJson (json.field "facing"))
  | "SendMail" =>
      .sendMail (json.guid? "sender") (json.guid "player") (json.word "template_id")
        (json.word "alt_sender") (json.word "delay_secs")
  | "SetFly" => .setFly (json.guid "creature") (json.flag "fly") (json.flag "always_stand")
  | "DespawnGameObject" => .despawnGameObject (json.guid "gameobject")
  | "Respawn" => .respawn (json.guid "creature")
  | "SetEquipment" =>
      .setEquipment (json.guid "creature") (json.flag "reset_default")
        (slotsOfJson (json.field "slots"))
  | "ResetGameObject" => .resetGameObject (json.guid "gameobject")
  | _ => .updateTemplate (json.guid "creature") (json.word "entry") (.ofJson (json.field "team"))

def ofJson (json : Json) : Effect :=
  match json with
  | .object [(name, fields)] => ofFields name fields
  | _ => ofFields "" .null

end Effect

end WorldScripts
