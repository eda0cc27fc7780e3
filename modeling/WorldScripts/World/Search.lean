import WorldScripts.World

/-!
Searching the world. Distances are binary32 numbers; one that is no number is within no radius.
-/

namespace WorldScripts

structure Query where
  kind : BuddyKind
  entry : UInt32
  radius : Float32
  /-- Also accept the dead and the despawned. -/
  includeDead : Bool
  deriving DecidableEq

def Query.accepts (query : Query) (entity : Entity) : Bool :=
  entity.guid.kind.servesAs query.kind && entity.guid.entry == query.entry &&
    (query.includeDead || entity.isAlive)

namespace World

/-- The entities that a search from a point finds within its radius, with their distances. They come
in the order in which the world keeps them. -/
def candidates (world : World) (origin : Guid) (center : Position) (query : Query) :
    List (Float32 × Guid) :=
  world.entities.values.filterMap fun entity =>
    let distance := entity.position.distance center
    if entity.guid ≠ origin ∧ query.accepts entity ∧ distance ≤ query.radius then
      some (distance, entity.guid)
    else none

def nearer {α : Type} (best : Option (Float32 × α)) (next : Float32 × α) : Option (Float32 × α) :=
  match best with
  | some current => if current.1 ≤ next.1 then some current else some next
  | none => some next

/-- The nearest entity around another one, which is not counted itself; of several equally near,
the one that the world keeps first. -/
def findNearest? (world : World) (origin : Guid) (query : Query) : Option Guid :=
  match world.positionOf? origin with
  | none => none
  | some center =>
      ((world.candidates origin center query).foldl nearer none).map (·.2)

def findByDbGuid? (world : World) (kind : BuddyKind) (dbGuid : UInt32) : Option Guid :=
  (world.entities.values.find? fun entity =>
    entity.dbGuid == dbGuid && entity.guid.kind.servesAs kind).map (·.guid)

def countNearby (world : World) (origin : Guid) (entry : UInt32) (radius : Float32) : Nat :=
  match world.positionOf? origin with
  | none => 0
  | some center =>
      world.entities.values.countP fun entity =>
        entity.guid.kind == .creature && entity.guid.entry == entry && entity.isAlive &&
          entity.position.distance center ≤ radius

end World

end WorldScripts
