import WorldScripts.Exchange.Effect
import WorldScripts.Speech
import WorldScripts.Step

/-!
The exchange form of entities and worlds, of texts, and of the ways in which commands fail.
-/

namespace WorldScripts

instance : Inhabited LifeState := ⟨.alive⟩

def LifeState.ofJson (json : Json) : LifeState :=
  json.toNamed [.alive, .dead, .despawned] LifeState.name

namespace Entity

def fields (entity : Entity) : List (String × Json) :=
  [("guid", entity.guid.toJson), ("pos", entity.position.toJson), ("state", entity.state.name),
    ("owner", .ofGuid? entity.owner), ("pet", .ofGuid? entity.pet),
    ("script_id", .ofWord entity.scriptId), ("db_guid", .ofWord entity.dbGuid)]

def toJson (entity : Entity) : Json :=
  .object entity.fields

def ofJson (json : Json) : Entity where
  guid := json.guid "guid"
  position := .ofJson (json.field "pos")
  state := .ofJson (json.field "state")
  owner := json.guid? "owner"
  pet := json.guid? "pet"
  scriptId := json.word "script_id"
  dbGuid := json.word "db_guid"

/-- Sets what an object names. A position that is null stays as it was. -/
def edit (entity : Entity) (json : Json) : Entity where
  guid := entity.guid
  state := entity.state
  position := match json.field "pos" with
    | .null => entity.position
    | position => .ofJson position
  owner := ((json.field? "owner").map Guid.ofJson?).getD entity.owner
  pet := ((json.field? "pet").map Guid.ofJson?).getD entity.pet
  scriptId := ((json.field? "script_id").map Json.toUInt32).getD entity.scriptId
  dbGuid := ((json.field? "db_guid").map Json.toUInt32).getD entity.dbGuid

end Entity

namespace World

def ofJson (json : Json) : World :=
  let world := (json.itemsOf "entities").foldl (fun w entity => w.insert (.ofJson entity)) {}
  let world := match json.field "conditions" with
    | .object conditions =>
        conditions.foldl (fun w (id, met) => w.setCondition (.ofNat (id.toNat?.getD 0)) met.isTrue)
          world
    | _ => world
  (json.itemsOf "failing_spells").foldl (fun w spell => w.failSpell spell.toUInt32) world

def fieldToJson (field : (Guid × UInt32) × UInt32) : Json :=
  .array [field.1.1.toJson, .ofWord field.1.2, .ofWord field.2]

def toJson (world : World) : Json :=
  .object [("entities", .ofList Entity.toJson world.entities.values),
    ("fields", .ofList fieldToJson world.fields.entries)]

def effectsToJson (world : World) : Json :=
  .ofList Effect.toJson world.effects

end World

def Query.ofJson (json : Json) : Query where
  kind := .ofJson (json.field "kind")
  entry := json.word "entry"
  radius := json.float "radius"
  includeDead := json.flag "include_dead"

namespace EffectError

def kind : EffectError → String
  | .entityNotFound .. => "EntityNotFound"
  | .unsupported .. => "Unsupported"
  | .spellFailed .. => "SpellFailed"

def toJson (error : EffectError) : Json :=
  .object [("error", error.kind), ("message", error.message)]

end EffectError

namespace TextError

def kind : TextError → String
  | .outOfRange .. => "OutOfRange"
  | .missing .. => "Missing"
  | .needsPlayerTarget .. => "NeedsPlayerTarget"
  | .refused error => error.kind

def toJson (error : TextError) : Json :=
  .object [("error", error.kind), ("message", error.message)]

end TextError

namespace StepError

def kind : StepError → String
  | .buddyNotFound .. => "BuddyNotFound"
  | .missingRole .. => "MissingRole"
  | .wrongRole .. => "WrongRole"
  | .entityGone .. => "EntityGone"
  | .spawnNotFound .. => "DbGuidNotFound"
  | .undispatchable _ => "Undispatchable"
  | .missingText .. => "MissingText"
  | .refused error => error.kind

def fields (error : StepError) : List (String × Json) :=
  let about : List (String × Json) := [("error", error.kind), ("message", error.message)]
  match error with
  | .refused _ => about
  | _ => about ++ [("resolution_failure", .bool error.isOrdinary)]

def toJson (error : StepError) : Json :=
  .object error.fields

end StepError

def Roles.ofJson (json : Json) : Roles :=
  match json.items with
  | [source, target] => ⟨Guid.ofJson? source, Guid.ofJson? target⟩
  | _ => {}

def Outcome.toJson : Outcome → Json
  | .proceed => "Continue"
  | .terminate => "Terminate"

def TextRow.ofJson (json : Json) : TextRow where
  entry := json.signed "entry"
  content := json.textOf "content"
  sound := json.word "sound"
  chatType := (json.field "chat_type").toUInt8
  language := json.word "language"
  emote := json.word "emote"

def TextEntry.fields (text : TextEntry) : List (String × Json) :=
  [("content", text.content), ("sound", .ofWord text.sound), ("chat_type", text.chat.name),
    ("language", .ofWord text.language), ("emote", .ofWord text.emote)]

def LogLine.toJson (line : LogLine) : Json :=
  line.render

end WorldScripts
