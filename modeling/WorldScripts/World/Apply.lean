import WorldScripts.Log
import WorldScripts.World

/-!
Applying effects. Each effect looks for what it needs before it changes anything, and is recorded when it
has come to its end. An effect that fails leaves behind whatever it had done by then.
-/

namespace WorldScripts

inductive Deed where
  | teleport
  | despawnAsObject
  | respawnAsObject
  | respawnAsCreature
  | actAsObject
  | receivePlayerEffects
  | changeTemplate
  deriving DecidableEq, Repr

namespace Deed

def kind : Deed → EntityKind
  | .teleport | .receivePlayerEffects => .player
  | .despawnAsObject | .respawnAsObject | .actAsObject => .gameObject
  | .respawnAsCreature | .changeTemplate => .creature

def describe : Deed → String
  | .teleport => "teleport"
  | .despawnAsObject => "despawn as gameobject"
  | .respawnAsObject => "respawn as gameobject"
  | .respawnAsCreature => "respawn as creature"
  | .actAsObject => "act as gameobject"
  | .receivePlayerEffects => "receive player effects"
  | .changeTemplate => "change template"

end Deed

inductive EffectError where
  | entityNotFound (guid : Guid)
  | unsupported (guid : Guid) (deed : Deed)
  | spellFailed (spell : UInt32)
  deriving DecidableEq

def EffectError.message : EffectError → String
  | .entityNotFound guid => s!"entity {guid} not found"
  | .unsupported guid deed => s!"{guid} cannot {deed.describe}"
  | .spellFailed spell => s!"spell {spell} failed: spell marked as failing"

structure ApplyState where
  world : World
  log : List LogLine := []

-- The state goes on as it is when an error is thrown, so that nothing is undone by one.
abbrev ApplyM := EStateM EffectError ApplyState

namespace ApplyM

def fail {α : Type} (error : EffectError) : ApplyM α := fun state => .error error state

def world : ApplyM World := fun state => .ok state.world state

def require (guid : Guid) : ApplyM Entity := do
  match (← world).entity? guid with
  | some entity => return entity
  | none => fail (.entityNotFound guid)

/-- It is the entity's own guid that tells of which kind it is. -/
def requireKind (guid : Guid) (deed : Deed) : ApplyM Unit := do
  let entity ← require guid
  if entity.guid.kind ≠ deed.kind then
    fail (.unsupported guid deed)

def change (f : World → World) : ApplyM Unit := fun state =>
  .ok () { state with world := f state.world }

def tell (line : LogLine) : ApplyM Unit := fun state =>
  .ok () { state with log := state.log ++ [line] }

end ApplyM

namespace Effect

open ApplyM

def perform : Effect → ApplyM Unit
  | .setField entity field value => do
      let _ ← require entity
      change (·.setField entity field value)
  | .changeFlag true entity field mask => do
      let _ ← require entity
      change fun world => world.setField entity field (world.field entity field ||| mask)
  | .changeFlag false entity field mask => do
      let _ ← require entity
      change fun world => world.setField entity field (world.field entity field &&& ~~~mask)
  | .moveTo entity destination _ => do
      let _ ← require entity
      change (·.setPosition entity destination)
  | .teleport player _ destination => do
      requireKind player .teleport
      let _ ← require player
      change (·.setPosition player destination)
  | .castSpell caster target spell .. => do
      let _ ← require caster
      let _ ← require target
      if (← world).failingSpells.contains spell then
        fail (.spellFailed spell)
  | .summon summoner creature position .. => do
      let _ ← require summoner
      let guid := (← world).freshGuid .creature creature
      change (·.spawn .creature creature position)
      tell (.debug s!"summoned {guid}")
  | .despawn entity _ => do
      let _ ← require entity
      change (·.setState entity .despawned)
  | .despawnGameObject object => do
      requireKind object .despawnAsObject
      let _ ← require object
      change (·.setState object .despawned)
  | .respawnGameObject object _ | .resetGameObject object => do
      requireKind object .respawnAsObject
      let _ ← require object
      change (·.setState object .alive)
  | .respawn creature => do
      requireKind creature .respawnAsCreature
      let _ ← require creature
      change (·.setState creature .alive)
  | .useDoor object .. | .activateObject object _ | .lockGameObject object _ =>
      requireKind object .actAsObject
  | .failQuest player _ | .exploreArea player _ | .killCredit player .. | .createItem player ..
  | .playMovie player _ | .sendTaxiPath player _ | .sendMail _ player .. =>
      requireKind player .receivePlayerEffects
  | .updateTemplate creature entry _ => do
      requireKind creature .changeTemplate
      let entity ← require creature
      let changed : Guid := ⟨entity.guid.kind, entry, entity.guid.counter⟩
      tell (.debug s!"{creature} now uses template {entry} ({changed})")
  | .say entity .. | .emote entity _ | .playSound entity .. | .removeAura entity _
  | .setMovement entity .. | .setActive entity _ | .setFaction entity _ | .changeDisplay _ entity _
  | .setRun entity _ | .attack entity _ | .standState entity _ | .modifyNpcFlags entity ..
  | .shiftWaypointWait entity _ | .pauseWaypoints entity _ | .sendAiEvent entity ..
  | .setFacing entity _ | .setFly entity .. | .setEquipment entity .. => do
      let _ ← require entity

end Effect

namespace World

def record (world : World) (effect : Effect) : World :=
  { world with effects := world.effects ++ [effect] }

def applying (world : World) (effect : Effect) : EStateM.Result EffectError ApplyState Unit :=
  (do effect.perform; ApplyM.change (·.record effect)).run { world }

def apply (world : World) (effect : Effect) : Except EffectError Unit × World :=
  match world.applying effect with
  | .ok _ after => (.ok (), after.world)
  | .error error after => (.error error, after.world)

def remarks (world : World) (effect : Effect) : List LogLine :=
  match world.applying effect with
  | .ok _ after | .error _ after => after.log

end World

end WorldScripts
