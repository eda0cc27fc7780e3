import WorldScripts.Command.Tag
import WorldScripts.World.Apply

/-!
Why a command of a script is skipped. The script itself goes on with its next command.
-/

namespace WorldScripts

inductive Capacity where
  | any
  | unit
  | creature
  | player
  | gameObject
  deriving DecidableEq, Repr

namespace Capacity

def admits : Capacity → EntityKind → Bool
  | .any, _ => true
  | .unit, kind => kind.isUnit
  | .creature, kind => kind.isCreature
  | .player, kind => kind == .player
  | .gameObject, kind => kind == .gameObject

def name : Capacity → String
  | .any => "world object"
  | .unit => "unit"
  | .creature => "creature"
  | .player => "player"
  | .gameObject => "gameobject"

end Capacity

inductive Role where
  | source
  | target
  | either (capacity : Capacity)
  | searcher
  /-- Source or target, if it is no player and not the one meant already. -/
  | other
  | text
  deriving DecidableEq, Repr

def Role.name : Role → String
  | .source => "source"
  | .target => "target"
  | .either capacity => capacity.name
  | .searcher => "searcher"
  | .other => "creature or gameobject"
  | .text => "text id"

inductive Outcome where
  | proceed
  | terminate
  deriving DecidableEq, Repr

inductive StepError where
  | buddyNotFound (tag : Tag) (entry radiusOrGuid : UInt32)
  | missingRole (tag : Tag) (role : Role)
  | wrongRole (tag : Tag) (role : Role) (guid : Guid) (expected : Capacity)
  | entityGone (tag : Tag) (guid : Guid)
  | spawnNotFound (tag : Tag) (dbGuid : UInt32)
  | missingText (id : Int32)
  | refused (error : EffectError)
  | undispatchable (tag : Tag)
  deriving DecidableEq

namespace StepError

def message : StepError → String
  | .buddyNotFound tag entry radiusOrGuid =>
      s!"{tag}: buddy {entry} not found (search radius or guid {radiusOrGuid})"
  | .missingRole tag role => s!"{tag}: no {role.name} available"
  | .wrongRole tag role guid expected => s!"{tag}: {role.name} {guid} is not a {expected.name}"
  | .entityGone tag guid => s!"{tag}: {guid} is no longer in the world"
  | .spawnNotFound tag dbGuid => s!"{tag}: no gameobject spawned from db guid {dbGuid}"
  | .missingText id => s!"text entry {id} not found"
  | .refused error => error.message
  | .undispatchable tag => s!"{tag} cannot be executed"

def isOrdinary : StepError → Bool
  | .buddyNotFound .. => true
  | _ => false

end StepError

end WorldScripts
