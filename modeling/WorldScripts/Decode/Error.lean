import WorldScripts.Binary32.Decimal
import WorldScripts.Command.Tag
import WorldScripts.Text.Hexadecimal

/-!
Why a row is rejected. Causes are values; their wording stands in the `message` functions.
-/

namespace WorldScripts

inductive BuddyFault where
  /-- The older spelling and the columns of the row name different buddies. -/
  | disagreement (legacyEntry legacyRadius entry radius : UInt32)
  | searchWithoutEntry (radiusOrGuid : UInt32)
  | flagsWithoutEntry
  | asTargetWithoutEntry
  | guidAndPet
  | guidZero
  | radiusOutside (radius : UInt32) (limit : Float32)
  deriving DecidableEq

namespace BuddyFault

def message : BuddyFault → String
  | .disagreement legacyEntry legacyRadius entry radius =>
      s!"datalong2/datalong3 ({legacyEntry}, {legacyRadius}) disagree with " ++
        s!"buddy_entry/search_radius ({entry}, {radius})"
  | .searchWithoutEntry radiusOrGuid => s!"search radius/guid {radiusOrGuid} without buddy entry"
  | .flagsWithoutEntry => "buddy flags without buddy entry"
  | .asTargetWithoutEntry => "SCRIPT_FLAG_BUDDY_AS_TARGET without buddy entry"
  | .guidAndPet => "buddy cannot be searched by guid and as pet"
  | .guidZero => "buddy guid 0"
  | .radiusOutside radius limit => s!"search radius {radius} outside 1..=" ++ Binary32.plainText limit

end BuddyFault

inductive ValueFault where
  | zero (what : String)
  | chatType (number : UInt32)
  | noFirstText
  | textRange (id : Int32)
  | coordinates (x y z : Float32)
  | questDistance (distance : UInt32)
  | castFlags (flags : UInt32)
  | soundFlags (flags : UInt32)
  | movementType (number : UInt32)
  | lockState (number : UInt32)
  | contradictingLock (number : UInt32)
  | standState (number : UInt32)
  | npcFlagOperation (number : UInt32)
  | searchDistance (distance : UInt32)
  | aiEvent (event : UInt32)
  | distances (minimum maximum : UInt32)
  | mailDelay (delay : Int32)
  | team (number : UInt32)
  deriving DecidableEq

namespace ValueFault

def message : ValueFault → String
  | .zero what => what ++ " must not be 0"
  | .chatType number => s!"unknown chat type {number}"
  | .noFirstText => "first text id (dataint) must be set"
  | .textRange id => s!"text id {id} is outside every text range"
  | .coordinates x y z =>
      "invalid coordinates (" ++
        ", ".intercalate [Binary32.plainText x, Binary32.plainText y, Binary32.plainText z] ++ ")"
  | .questDistance distance => s!"distance {distance} beyond visible range"
  | .castFlags flags => "cast flags " ++ hexText flags.toNat ++ " out of range"
  | .soundFlags flags => "sound flags " ++ hexText flags.toNat ++ " out of range"
  | .movementType number => s!"unknown movement type {number}"
  | .lockState number => "invalid lock state " ++ hexText number.toNat
  | .contradictingLock number => "contradicting lock state " ++ hexText number.toNat
  | .standState number => s!"stand state {number} out of range"
  | .npcFlagOperation number => s!"unknown npc flag operation {number}"
  | .searchDistance distance => s!"search distance {distance} invalid for npc search"
  | .aiEvent event => s!"unknown AI event type {event}"
  | .distances minimum maximum => s!"min distance {minimum} above max distance {maximum}"
  | .mailDelay delay => s!"negative mail delay {delay}"
  | .team number => s!"unknown faction team {number}"

end ValueFault

inductive DecodeError where
  | unknownCommand (key command : UInt32)
  | reservedCommand (key : UInt32) (tag : Tag)
  | undefinedFlags (key : UInt32) (tag : Tag) (flags : UInt8)
  | additionalUnsupported (key : UInt32) (tag : Tag)
  | malformedBuddy (key : UInt32) (tag : Tag) (fault : BuddyFault)
  | invalidValue (key : UInt32) (tag : Tag) (fault : ValueFault)
  deriving DecidableEq

namespace DecodeError

def key : DecodeError → UInt32
  | .unknownCommand key _
  | .reservedCommand key _
  | .undefinedFlags key _ _
  | .additionalUnsupported key _
  | .malformedBuddy key _ _
  | .invalidValue key _ _ => key

def message (error : DecodeError) : String :=
  s!"script {error.key}: " ++ match error with
    | .unknownCommand _ command => s!"unknown command {command}"
    | .reservedCommand _ tag => s!"command {tag} is reserved"
    | .undefinedFlags _ tag flags => s!"{tag} has undefined data_flags " ++ byteHexText flags
    | .additionalUnsupported _ tag => s!"{tag} does not support SCRIPT_FLAG_COMMAND_ADDITIONAL"
    | .malformedBuddy _ tag fault => s!"{tag} has a malformed buddy ({fault.message})"
    | .invalidValue _ tag fault => s!"{tag} invalid value ({fault.message})"

end DecodeError

end WorldScripts
