import WorldScripts.Log
import WorldScripts.Registry.Hooks
import WorldScripts.ScriptNames
import WorldScripts.Text.Quoted

/-!
The registry of native scripts. Each name gets an id when it is first mentioned, and the registry keeps the
names by their ids and the ids by their names. Id zero is that of the empty name and stands for no script.
-/

namespace WorldScripts

structure Registry where
  /-- The names, each at its id. -/
  names : List String := [""]
  /-- The id of each name but the empty one, the last name first. -/
  ids : List (String × UInt32) := []
  hooks : OrderedMap UInt32 Hooks := .empty
  areaTriggers : OrderedMap UInt32 UInt32 := .empty
  events : OrderedMap UInt32 UInt32 := .empty
  instances : OrderedMap UInt32 UInt32 := .empty

/-- The answer of the dialog hooks when no script decides it. -/
def dialogStatusUndefined : UInt32 := 100

namespace Registry

instance : Inhabited Registry := ⟨{}⟩

/-- A registry that has not even given an id to the empty name. -/
def blank : Registry :=
  { names := [] }

/-- A place in the list of names as an id. The last id stands for all places beyond. -/
def idAt (place : Nat) : UInt32 :=
  if place < UInt32.size then .ofNat place else 0xFFFFFFFF

/-- The id of a name, the next free one if it has none yet. -/
def intern (registry : Registry) (name : String) : UInt32 × Registry :=
  let registry := if registry.names.isEmpty then { registry with names := [""] } else registry
  if name.isEmpty then (0, registry)
  else
    match registry.ids.lookup name with
    | some id => (id, registry)
    | none =>
        let id := idAt registry.names.length
        (id, { registry with
          names := registry.names ++ [name]
          ids := (name, id) :: registry.ids })

def scriptId (registry : Registry) (name : String) : UInt32 :=
  (registry.ids.lookup name).getD 0

def scriptName? (registry : Registry) (id : UInt32) : Option String :=
  registry.names[id.toNat]?

def idCount (registry : Registry) : Nat :=
  max registry.names.length 1

def bindAreaTrigger (registry : Registry) (binding : ScriptBinding) : Registry :=
  let (id, registry) := registry.intern binding.script
  { registry with areaTriggers := registry.areaTriggers.insert binding.id id }

def bindEvent (registry : Registry) (binding : ScriptBinding) : Registry :=
  let (id, registry) := registry.intern binding.script
  { registry with events := registry.events.insert binding.id id }

def ofNames (names : ScriptNames) : Logged Registry :=
  let registry : Registry := names.names.foldl (fun registry name => (registry.intern name).2) {}
  let registry := names.areaTriggers.foldl bindAreaTrigger registry
  let registry := names.events.foldl bindEvent registry
  ⟨registry,
    [.info (s!"{registry.idCount - 1} script names loaded " ++
      s!"({registry.areaTriggers.size} area triggers, {registry.events.size} events bound)")]⟩

/-- Registers hooks under a name, in the place of those registered under it before. -/
def register (registry : Registry) (name : String) (hooks : Hooks) : Logged (UInt32 × Registry) :=
  let unknown : List LogLine :=
    if (registry.ids.lookup name).isSome then []
    else [.warn s!"script '{name}' is not referenced by any template or binding"]
  let (id, registry) := registry.intern name
  let again : List LogLine :=
    if registry.hooks.contains id then
      [.warn s!"script '{name}' registered twice, keeping the newer hooks"]
    else []
  ⟨(id, { registry with hooks := registry.hooks.insert id hooks }),
    unknown ++ again ++ [.debug s!"script '{name}' registered as id {id}"]⟩

def bindInstance (registry : Registry) (map : UInt32) (name : String) : UInt32 × Registry :=
  let (id, registry) := registry.intern name
  (id, { registry with instances := registry.instances.insert map id })

def areaTriggerScript (registry : Registry) (trigger : UInt32) : UInt32 :=
  (registry.areaTriggers.find? trigger).getD 0

def eventScript (registry : Registry) (event : UInt32) : UInt32 :=
  (registry.events.find? event).getD 0

def isRegistered (registry : Registry) (id : UInt32) : Bool :=
  registry.hooks.contains id

/-- Id zero has no hooks, even if some are registered under it. -/
def hooksForId? (registry : Registry) (id : UInt32) : Option Hooks :=
  if id = 0 then none else registry.hooks.find? id

def hooksFor? (registry : Registry) (world : World) (guid : Guid) : Option Hooks := do
  let entity ← world.entity? guid
  registry.hooksForId? entity.scriptId

/-- Calls a hook, if there are hooks, and gives the default in the place of an answer that it does not
give. -/
def dispatch {α : Type} (hooks? : Option Hooks) (hook : Hooks → HookReply α) (default : α)
    (world : World) : α × World :=
  match hooks? with
  | none => (default, world)
  | some hooks =>
      let (answer, world) := hook hooks world
      (answer.getD default, world)

section

variable (registry : Registry)

def gossipHelloCreature (player creature : Guid) (world : World) : Bool × World :=
  dispatch (registry.hooksFor? world creature) (·.gossipHelloCreature player creature) false world

def gossipHelloGameObject (player object : Guid) (world : World) : Bool × World :=
  dispatch (registry.hooksFor? world object) (·.gossipHelloGameObject player object) false world

def gossipSelectCreature (player creature : Guid) (sender action : UInt32) (code : Option String)
    (world : World) : Bool × World :=
  dispatch (registry.hooksFor? world creature)
    (·.gossipSelectCreature player creature sender action code) false world

def gossipSelectGameObject (player object : Guid) (sender action : UInt32) (code : Option String)
    (world : World) : Bool × World :=
  dispatch (registry.hooksFor? world object)
    (·.gossipSelectGameObject player object sender action code) false world

def questAcceptCreature (player creature : Guid) (quest : UInt32) (world : World) : Bool × World :=
  dispatch (registry.hooksFor? world creature) (·.questAcceptCreature player creature quest) false world

def questAcceptGameObject (player object : Guid) (quest : UInt32) (world : World) : Bool × World :=
  dispatch (registry.hooksFor? world object) (·.questAcceptGameObject player object quest) false world

def questAcceptItem (player item : Guid) (quest : UInt32) (world : World) : Bool × World :=
  dispatch (registry.hooksFor? world item) (·.questAcceptItem player item quest) false world

def questRewardedCreature (player creature : Guid) (quest : UInt32) (world : World) : Bool × World :=
  dispatch (registry.hooksFor? world creature) (·.questRewardedCreature player creature quest) false
    world

def questRewardedGameObject (player object : Guid) (quest : UInt32) (world : World) : Bool × World :=
  dispatch (registry.hooksFor? world object) (·.questRewardedGameObject player object quest) false world

def dialogStatusCreature (player creature : Guid) (world : World) : UInt32 × World :=
  dispatch (registry.hooksFor? world creature) (·.dialogStatusCreature player creature)
    dialogStatusUndefined world

def dialogStatusGameObject (player object : Guid) (world : World) : UInt32 × World :=
  dispatch (registry.hooksFor? world object) (·.dialogStatusGameObject player object)
    dialogStatusUndefined world

def gameObjectUse (user object : Guid) (world : World) : Bool × World :=
  dispatch (registry.hooksFor? world object) (·.gameObjectUse user object) false world

def gameObjectOpen (player object : Guid) (world : World) : Bool × World :=
  dispatch (registry.hooksFor? world object) (·.gameObjectOpen player object) false world

def itemUse (player item : Guid) (target : Option Guid) (world : World) : Bool × World :=
  dispatch (registry.hooksFor? world item) (·.itemUse player item target) false world

def areaTrigger (player : Guid) (trigger : UInt32) (world : World) : Bool × World :=
  dispatch (registry.hooksForId? (registry.areaTriggerScript trigger)) (·.areaTrigger player trigger)
    false world

def processEvent (event : UInt32) (source target : Option Guid) (isStart : Bool) (world : World) :
    Bool × World :=
  dispatch (registry.hooksForId? (registry.eventScript event))
    (·.processEvent event source target isStart) false world

def effectDummyCreature (caster : Guid) (spell : UInt32) (effectIndex : UInt8) (creature : Guid)
    (world : World) : Bool × World :=
  dispatch (registry.hooksFor? world creature)
    (·.effectDummyCreature caster spell effectIndex creature) false world

def effectScriptEffectCreature (caster : Guid) (spell : UInt32) (effectIndex : UInt8)
    (creature originalCaster : Guid) (world : World) : Bool × World :=
  dispatch (registry.hooksFor? world creature)
    (·.effectScriptEffectCreature caster spell effectIndex creature originalCaster) false world

def effectDummyGameObject (caster : Guid) (spell : UInt32) (effectIndex : UInt8) (object : Guid)
    (world : World) : Bool × World :=
  dispatch (registry.hooksFor? world object)
    (·.effectDummyGameObject caster spell effectIndex object) false world

def effectDummyItem (caster : Guid) (spell : UInt32) (effectIndex : UInt8) (item : Guid)
    (world : World) : Bool × World :=
  dispatch (registry.hooksFor? world item) (·.effectDummyItem caster spell effectIndex item) false world

/-- It is the script of the aura's holder that is asked. -/
def auraDummy (aura : AuraInfo) (isApplied : Bool) (world : World) : Bool × World :=
  dispatch (registry.hooksFor? world aura.holder) (·.auraDummy aura isApplied) false world

def creatureAi (world : World) (creature : Guid) : Option CreatureAi := do
  let hooks ← registry.hooksFor? world creature
  hooks.creatureAi creature

def gameObjectAi (world : World) (object : Guid) : Option GameObjectAi := do
  let hooks ← registry.hooksFor? world object
  hooks.gameObjectAi object

def instanceData (map : UInt32) : Option InstanceData := do
  let id ← registry.instances.find? map
  let hooks ← registry.hooksForId? id
  hooks.instanceData map

end

def describe (registry : Registry) : String :=
  "ScriptRegistry \x7b names: [" ++ ", ".intercalate (registry.names.map quotedText) ++
    s!"], registered: {registry.hooks.size}, .. " ++ "\x7d"

end Registry

end WorldScripts
