import WorldScripts.Instruction
import WorldScripts.Step.Error
import WorldScripts.World.Search

/-!
The roles of a command. The buddy takes the place of the target or of the source, then the two may
change places, and last the source may become its own target.
-/

namespace WorldScripts

structure Roles where
  source : Option Guid := none
  target : Option Guid := none
  deriving DecidableEq, Repr

def RowFlags.assign (flags : RowFlags) (roles : Roles) (buddy : Option Guid) : Roles :=
  let roles := match buddy with
    | none => roles
    | some guid =>
        if flags.buddyAsTarget then { roles with target := some guid }
        else { roles with source := some guid }
  let roles := if flags.reverse then ⟨roles.target, roles.source⟩ else roles
  if flags.sourceTargetsSelf then { roles with target := roles.source } else roles

namespace Instruction

def searcher? (roles : Roles) : Option Guid :=
  roles.source.or roles.target

/-- The buddy that is found around the searcher, by its stored spawn, or as the searcher's pet. Only the
search around takes entry, kind and life state into account by itself. -/
def findBuddy? (instruction : Instruction) (roles : Roles) (world : World) : Option Guid :=
  let buddy := instruction.buddy
  let includeDead := instruction.flags.buddyIsDespawned
  if !instruction.flags.buddyByGuid && !instruction.flags.buddyIsPet then do
    world.findNearest? (← searcher? roles) {
      kind := buddy.kind
      entry := buddy.entry
      radius := buddy.radiusOrGuid.toFloat32
      includeDead }
  else do
    let found ←
      if instruction.flags.buddyByGuid then world.findByDbGuid? buddy.kind buddy.radiusOrGuid
      else (← world.entity? (← searcher? roles)).pet
    let entity ← world.entity? found
    if entity.guid.entry == buddy.entry && entity.guid.kind.servesAs buddy.kind &&
        (includeDead || entity.isAlive) then
      some found
    else none

def findBuddy (instruction : Instruction) (roles : Roles) (world : World) :
    Except StepError (Option Guid) :=
  if !instruction.buddy.isSet then .ok none
  else
    match instruction.findBuddy? roles world with
    | some guid => .ok (some guid)
    | none =>
        .error (.buddyNotFound instruction.tag instruction.buddy.entry
          instruction.buddy.radiusOrGuid)

def resolve (instruction : Instruction) (roles : Roles) (world : World) :
    Except StepError Roles := do
  let buddy ← instruction.findBuddy roles world
  .ok (instruction.flags.assign roles buddy)

def buddyLines (instruction : Instruction) (buddy : Option Guid) : List LogLine :=
  buddy.toList.map fun guid =>
    .debug s!"script {instruction.key} {instruction.tag}: buddy resolved to {guid}"

end Instruction

end WorldScripts
