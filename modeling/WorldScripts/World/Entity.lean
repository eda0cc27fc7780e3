import WorldScripts.Guid
import WorldScripts.Position

/-!
What is known of an entity of the world.
-/

namespace WorldScripts

inductive LifeState where
  | alive
  | dead
  /-- Taken from the map, but not forgotten. -/
  | despawned
  deriving DecidableEq, Repr

def LifeState.name : LifeState → String
  | .alive => "Alive"
  | .dead => "Dead"
  | .despawned => "Despawned"

structure Entity where
  guid : Guid
  position : Position := {}
  state : LifeState := .alive
  /-- The player who holds an item, or the owner of a pet. -/
  owner : Option Guid := none
  pet : Option Guid := none
  /-- The native script of the template; zero for none. -/
  scriptId : UInt32 := 0
  /-- The stored spawn; zero for an entity that has none. -/
  dbGuid : UInt32 := 0
  deriving DecidableEq

namespace Entity

def isAlive (entity : Entity) : Bool :=
  entity.state == .alive

def inWorld (entity : Entity) : Bool :=
  entity.state != .despawned

end Entity

end WorldScripts
