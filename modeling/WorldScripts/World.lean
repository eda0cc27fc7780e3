import WorldScripts.World.Effect
import WorldScripts.World.Entity

/-!
The world that scripts act on: its entities, what they have been told, and a record of every effect
that was accepted.
-/

namespace WorldScripts

theorem word_pair_inj {high high' low low' : Nat} (small : low < 0x100000000)
    (small' : low' < 0x100000000)
    (same : high * 0x100000000 + low = high' * 0x100000000 + low') : high = high' ∧ low = low' := by
  omega

/-- Fields come in the order of their entity, then of their number. -/
instance : Ranked (Guid × UInt32) where
  rank key := rank key.1 * 0x100000000 + key.2.toNat
  rank_inj {a b} same :=
    have parts := word_pair_inj a.2.toNat_lt b.2.toNat_lt same
    Prod.ext (rank_inj parts.1) (UInt32.toNat_inj.mp parts.2)

structure World where
  entities : OrderedMap Guid Entity := .empty
  /-- The fields of entities that were set; all others are zero. -/
  fields : OrderedMap (Guid × UInt32) UInt32 := .empty
  /-- The conditions that were settled; all others are not met. -/
  conditions : OrderedMap UInt32 Bool := .empty
  failingSpells : List UInt32 := []
  effects : List Effect := []
  nextCounter : UInt32 := 1
  deriving DecidableEq

namespace World

instance : Inhabited World := ⟨{}⟩

def entity? (world : World) (guid : Guid) : Option Entity :=
  world.entities.find? guid

def positionOf? (world : World) (guid : Guid) : Option Position :=
  (world.entity? guid).map (·.position)

/-- The entity is there and has not been taken from the map. -/
def holds (world : World) (guid : Guid) : Bool :=
  (world.entity? guid).any (·.inWorld)

def field (world : World) (guid : Guid) (number : UInt32) : UInt32 :=
  (world.fields.find? (guid, number)).getD 0

def conditionMet (world : World) (condition : UInt32) : Bool :=
  (world.conditions.find? condition).getD false

/-- The counter of the next entity that is made here; no counter is zero. -/
def freshCounter (world : World) : UInt32 :=
  max world.nextCounter 1

def freshGuid (world : World) (kind : EntityKind) (entry : UInt32) : Guid :=
  ⟨kind, entry, world.freshCounter⟩

def spawn (world : World) (kind : EntityKind) (entry : UInt32) (position : Position) : World :=
  let guid := world.freshGuid kind entry
  { world with
    entities := world.entities.insert guid { guid, position }
    nextCounter := world.freshCounter + 1 }

/-- Adds an entity as it is; counters given out later lie above its own. -/
def insert (world : World) (entity : Entity) : World :=
  { world with
    entities := world.entities.insert entity.guid entity
    nextCounter := max world.nextCounter (entity.guid.counter + 1) }

def modify (world : World) (guid : Guid) (change : Entity → Entity) : World :=
  { world with entities := world.entities.modify guid change }

def setState (world : World) (guid : Guid) (state : LifeState) : World :=
  world.modify guid fun entity => { entity with state }

def setPosition (world : World) (guid : Guid) (position : Position) : World :=
  world.modify guid fun entity => { entity with position }

def setField (world : World) (guid : Guid) (number value : UInt32) : World :=
  { world with fields := world.fields.insert (guid, number) value }

def remove (world : World) (guid : Guid) : World :=
  { world with entities := world.entities.erase guid }

def setCondition (world : World) (condition : UInt32) (met : Bool) : World :=
  { world with conditions := world.conditions.insert condition met }

def failSpell (world : World) (spell : UInt32) : World :=
  if world.failingSpells.contains spell then world
  else { world with failingSpells := spell :: world.failingSpells }

def forgetEffects (world : World) : World :=
  { world with effects := [] }

end World

end WorldScripts
