import WorldScripts.Exchange.Basic
import WorldScripts.Registry

/-!
The exchange form of calls to native scripts: the name of the hook, and what is passed with it.
-/

namespace WorldScripts

/-- A call as it is exchanged: the id of the script that is asked, what is passed, and the call itself. -/
structure Call where
  script : Registry → World → UInt32
  arguments : List Json
  make : Registry → World → Json × World

namespace Call

def scriptOfEntity (guid : Guid) (_ : Registry) (world : World) : UInt32 :=
  ((world.entity? guid).map (·.scriptId)).getD 0

def handled (made : Bool × World) : Json × World :=
  (.bool made.1, made.2)

def dialogStatus (made : UInt32 × World) : Json × World :=
  (.ofWord made.1, made.2)

def ofJson? (name : String) (json : Json) : Option Call :=
  let player := json.guid "player"
  let entity := json.guid "entity"
  let quest := json.word "quest"
  let spell := json.word "spell"
  let index := (json.field "index").toUInt8
  let sender := json.word "sender"
  let action := json.word "action"
  let code := (json.field "code").string?
  let asked := scriptOfEntity entity
  let gossip := [player.toJson, entity.toJson]
  let selected := gossip ++ [.ofWord sender, .ofWord action, .ofOption .string code]
  let quested := gossip ++ [.ofWord quest]
  let effect := [player.toJson, .ofWord spell, .ofNat index.toNat, entity.toJson]
  match name with
  | "gossip_hello_creature" =>
      some ⟨asked, gossip, fun registry => handled ∘ registry.gossipHelloCreature player entity⟩
  | "gossip_hello_gameobject" =>
      some ⟨asked, gossip, fun registry => handled ∘ registry.gossipHelloGameObject player entity⟩
  | "gossip_select_creature" =>
      some ⟨asked, selected, fun registry =>
        handled ∘ registry.gossipSelectCreature player entity sender action code⟩
  | "gossip_select_gameobject" =>
      some ⟨asked, selected, fun registry =>
        handled ∘ registry.gossipSelectGameObject player entity sender action code⟩
  | "quest_accept_creature" =>
      some ⟨asked, quested, fun registry => handled ∘ registry.questAcceptCreature player entity quest⟩
  | "quest_accept_gameobject" =>
      some ⟨asked, quested, fun registry =>
        handled ∘ registry.questAcceptGameObject player entity quest⟩
  | "quest_accept_item" =>
      some ⟨asked, quested, fun registry => handled ∘ registry.questAcceptItem player entity quest⟩
  | "quest_rewarded_creature" =>
      some ⟨asked, quested, fun registry =>
        handled ∘ registry.questRewardedCreature player entity quest⟩
  | "quest_rewarded_gameobject" =>
      some ⟨asked, quested, fun registry =>
        handled ∘ registry.questRewardedGameObject player entity quest⟩
  | "dialog_status_creature" =>
      some ⟨asked, gossip, fun registry => dialogStatus ∘ registry.dialogStatusCreature player entity⟩
  | "dialog_status_gameobject" =>
      some ⟨asked, gossip, fun registry => dialogStatus ∘ registry.dialogStatusGameObject player entity⟩
  | "gameobject_use" =>
      some ⟨asked, gossip, fun registry => handled ∘ registry.gameObjectUse player entity⟩
  | "gameobject_open" =>
      some ⟨asked, gossip, fun registry => handled ∘ registry.gameObjectOpen player entity⟩
  | "item_use" =>
      let target := json.guid? "target"
      some ⟨asked, gossip ++ [.ofGuid? target], fun registry =>
        handled ∘ registry.itemUse player entity target⟩
  | "area_trigger" =>
      let trigger := json.word "id"
      some ⟨fun registry _ => registry.areaTriggerScript trigger, [player.toJson, .ofWord trigger],
        fun registry => handled ∘ registry.areaTrigger player trigger⟩
  | "process_event" =>
      let event := json.word "id"
      let source := json.guid? "source"
      let target := json.guid? "target"
      let isStart := json.flag "start"
      some ⟨fun registry _ => registry.eventScript event,
        [.ofWord event, .ofGuid? source, .ofGuid? target, .bool isStart],
        fun registry => handled ∘ registry.processEvent event source target isStart⟩
  | "effect_dummy_creature" =>
      some ⟨asked, effect, fun registry =>
        handled ∘ registry.effectDummyCreature player spell index entity⟩
  | "effect_script_effect_creature" =>
      let caster := json.guid "original"
      some ⟨asked, effect ++ [caster.toJson], fun registry =>
        handled ∘ registry.effectScriptEffectCreature player spell index entity caster⟩
  | "effect_dummy_gameobject" =>
      some ⟨asked, effect, fun registry =>
        handled ∘ registry.effectDummyGameObject player spell index entity⟩
  | "effect_dummy_item" =>
      some ⟨asked, effect, fun registry => handled ∘ registry.effectDummyItem player spell index entity⟩
  | "aura_dummy" =>
      let aura : AuraInfo := ⟨spell, index, json.guid? "caster", json.guid "holder"⟩
      let isApplied := json.flag "apply"
      some ⟨scriptOfEntity aura.holder,
        [.ofWord spell, .ofNat index.toNat, .ofGuid? aura.caster, aura.holder.toJson, .bool isApplied],
        fun registry => handled ∘ registry.auraDummy aura isApplied⟩
  | _ => none

end Call

def Hooks.ofJson (answers : Json) : Hooks :=
  let handled (name : String) : HookReply Bool := fun world =>
    match answers.field name with
    | .bool answer => (some answer, world)
    | _ => (none, world)
  let status (name : String) : HookReply UInt32 := fun world => ((answers.field name).word?, world)
  { gossipHelloCreature _ _ := handled "gossip_hello_creature"
    gossipHelloGameObject _ _ := handled "gossip_hello_gameobject"
    gossipSelectCreature _ _ _ _ _ := handled "gossip_select_creature"
    gossipSelectGameObject _ _ _ _ _ := handled "gossip_select_gameobject"
    questAcceptCreature _ _ _ := handled "quest_accept_creature"
    questAcceptGameObject _ _ _ := handled "quest_accept_gameobject"
    questAcceptItem _ _ _ := handled "quest_accept_item"
    questRewardedCreature _ _ _ := handled "quest_rewarded_creature"
    questRewardedGameObject _ _ _ := handled "quest_rewarded_gameobject"
    dialogStatusCreature _ _ := status "dialog_status_creature"
    dialogStatusGameObject _ _ := status "dialog_status_gameobject"
    gameObjectUse _ _ := handled "gameobject_use"
    gameObjectOpen _ _ := handled "gameobject_open"
    itemUse _ _ _ := handled "item_use"
    areaTrigger _ _ := handled "area_trigger"
    processEvent _ _ _ _ := handled "process_event"
    effectDummyCreature _ _ _ _ := handled "effect_dummy_creature"
    effectScriptEffectCreature _ _ _ _ _ := handled "effect_script_effect_creature"
    effectDummyGameObject _ _ _ _ := handled "effect_dummy_gameobject"
    effectDummyItem _ _ _ _ := handled "effect_dummy_item"
    auraDummy _ _ := handled "aura_dummy"
    creatureAi _ := if answers.flag "creature_ai" then some {} else none
    gameObjectAi _ := if answers.flag "gameobject_ai" then some {} else none
    instanceData _ := if answers.flag "instance_data" then some {} else none }

def ScriptBinding.ofJson (json : Json) : ScriptBinding :=
  ⟨json.word "id", json.textOf "script_name"⟩

def ScriptBinding.toJson (binding : ScriptBinding) : Json :=
  .array [.ofWord binding.id, .string binding.script]

namespace ScriptNames

def ofJson (json : Json) : ScriptNames where
  names := (json.itemsOf "names").map Json.text
  areaTriggers := (json.itemsOf "area_triggers").map ScriptBinding.ofJson
  events := (json.itemsOf "events").map ScriptBinding.ofJson

def fields (names : ScriptNames) : List (String × Json) :=
  [("names", .ofList .string names.names),
    ("area_triggers", .ofList ScriptBinding.toJson names.areaTriggers),
    ("events", .ofList ScriptBinding.toJson names.events)]

end ScriptNames

end WorldScripts
