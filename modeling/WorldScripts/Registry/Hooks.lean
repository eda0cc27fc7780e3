import WorldScripts.World

/-!
The hooks of a native script: the calls it may answer, and what it makes for creatures, gameobjects and
maps. A hook that is not handled gives no answer.
-/

namespace WorldScripts

/-- The answer of a hook, if it handles the call, and the world after it. -/
abbrev HookReply (α : Type) := World → Option α × World

def HookReply.unhandled {α : Type} : HookReply α := fun world => (none, world)

structure AuraInfo where
  spell : UInt32
  effectIndex : UInt8
  caster : Option Guid
  holder : Guid
  deriving DecidableEq

-- What an AI or an instance keeps: numbers in numbered cells.
abbrev Memory := OrderedMap UInt32 UInt32

-- What a method of an AI leaves behind: its memory and the world.
abbrev Reaction := Memory → World → Memory × World

def Reaction.none : Reaction := fun memory world => (memory, world)

structure CreatureAi where
  memory : Memory := .empty
  onUpdate (elapsed : UInt32) : Reaction := .none
  onJustDied (killer : Option Guid) : Reaction := .none
  onAiEvent (event : UInt32) (sender invoker : Guid) : Reaction := .none

namespace CreatureAi

def react (ai : CreatureAi) (reaction : Reaction) (world : World) : CreatureAi × World :=
  let (memory, world) := reaction ai.memory world
  ({ ai with memory }, world)

def update (ai : CreatureAi) (elapsed : UInt32) (world : World) : CreatureAi × World :=
  ai.react (ai.onUpdate elapsed) world

def justDied (ai : CreatureAi) (killer : Option Guid) (world : World) : CreatureAi × World :=
  ai.react (ai.onJustDied killer) world

def aiEvent (ai : CreatureAi) (event : UInt32) (sender invoker : Guid) (world : World) :
    CreatureAi × World :=
  ai.react (ai.onAiEvent event sender invoker) world

end CreatureAi

structure GameObjectAi where
  memory : Memory := .empty
  onUpdate (elapsed : UInt32) : Reaction := .none

def GameObjectAi.update (ai : GameObjectAi) (elapsed : UInt32) (world : World) : GameObjectAi × World :=
  let (memory, world) := ai.onUpdate elapsed ai.memory world
  ({ ai with memory }, world)

structure InstanceData where
  memory : Memory := .empty
  onSetUp : Memory → Memory := id
  read (kind : UInt32) (memory : Memory) : UInt32 := 0
  onSetData (kind value : UInt32) : Memory → Memory := id

namespace InstanceData

def setUp (data : InstanceData) : InstanceData :=
  { data with memory := data.onSetUp data.memory }

def data (data : InstanceData) (kind : UInt32) : UInt32 :=
  data.read kind data.memory

def setData (data : InstanceData) (kind value : UInt32) : InstanceData :=
  { data with memory := data.onSetData kind value data.memory }

end InstanceData

structure Hooks where
  gossipHelloCreature (player creature : Guid) : HookReply Bool := .unhandled
  gossipHelloGameObject (player object : Guid) : HookReply Bool := .unhandled
  gossipSelectCreature (player creature : Guid) (sender action : UInt32) (code : Option String) :
    HookReply Bool := .unhandled
  gossipSelectGameObject (player object : Guid) (sender action : UInt32) (code : Option String) :
    HookReply Bool := .unhandled
  questAcceptCreature (player creature : Guid) (quest : UInt32) : HookReply Bool := .unhandled
  questAcceptGameObject (player object : Guid) (quest : UInt32) : HookReply Bool := .unhandled
  questAcceptItem (player item : Guid) (quest : UInt32) : HookReply Bool := .unhandled
  questRewardedCreature (player creature : Guid) (quest : UInt32) : HookReply Bool := .unhandled
  questRewardedGameObject (player object : Guid) (quest : UInt32) : HookReply Bool := .unhandled
  dialogStatusCreature (player creature : Guid) : HookReply UInt32 := .unhandled
  dialogStatusGameObject (player object : Guid) : HookReply UInt32 := .unhandled
  gameObjectUse (user object : Guid) : HookReply Bool := .unhandled
  gameObjectOpen (player object : Guid) : HookReply Bool := .unhandled
  itemUse (player item : Guid) (target : Option Guid) : HookReply Bool := .unhandled
  areaTrigger (player : Guid) (trigger : UInt32) : HookReply Bool := .unhandled
  processEvent (event : UInt32) (source target : Option Guid) (isStart : Bool) : HookReply Bool :=
    .unhandled
  effectDummyCreature (caster : Guid) (spell : UInt32) (effectIndex : UInt8) (creature : Guid) :
    HookReply Bool := .unhandled
  effectScriptEffectCreature (caster : Guid) (spell : UInt32) (effectIndex : UInt8)
    (creature originalCaster : Guid) : HookReply Bool := .unhandled
  effectDummyGameObject (caster : Guid) (spell : UInt32) (effectIndex : UInt8) (object : Guid) :
    HookReply Bool := .unhandled
  effectDummyItem (caster : Guid) (spell : UInt32) (effectIndex : UInt8) (item : Guid) :
    HookReply Bool := .unhandled
  auraDummy (aura : AuraInfo) (isApplied : Bool) : HookReply Bool := .unhandled
  creatureAi (creature : Guid) : Option CreatureAi := none
  gameObjectAi (object : Guid) : Option GameObjectAi := none
  instanceData (map : UInt32) : Option InstanceData := none

instance : Inhabited Hooks := ⟨{}⟩

end WorldScripts
