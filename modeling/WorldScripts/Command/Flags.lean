/-!
Flags of a row: how the buddy is found, and who takes which role.
-/

namespace WorldScripts

structure RowFlags where
  /-- The buddy takes the place of the target rather than of the source. -/
  buddyAsTarget : Bool := false
  /-- Source and target change places, after the buddy has taken its place. -/
  reverse : Bool := false
  /-- The source becomes its own target, last of all. -/
  sourceTargetsSelf : Bool := false
  additional : Bool := false
  buddyByGuid : Bool := false
  buddyIsPet : Bool := false
  /-- A dead or despawned buddy will do. -/
  buddyIsDespawned : Bool := false
  deriving DecidableEq, Repr

namespace RowFlags

/-- Seven bits are in use; a byte with the eighth one set is no set of flags. -/
def ofByte? (byte : UInt8) : Option RowFlags :=
  if byte &&& 0x80 = 0 then
    some {
      buddyAsTarget := byte &&& 0x01 != 0
      reverse := byte &&& 0x02 != 0
      sourceTargetsSelf := byte &&& 0x04 != 0
      additional := byte &&& 0x08 != 0
      buddyByGuid := byte &&& 0x10 != 0
      buddyIsPet := byte &&& 0x20 != 0
      buddyIsDespawned := byte &&& 0x40 != 0 }
  else none

def toByte (flags : RowFlags) : UInt8 :=
  let bit (set : Bool) (value : UInt8) : UInt8 := if set then value else 0
  bit flags.buddyAsTarget 0x01 ||| bit flags.reverse 0x02 ||| bit flags.sourceTargetsSelf 0x04 |||
    bit flags.additional 0x08 ||| bit flags.buddyByGuid 0x10 ||| bit flags.buddyIsPet 0x20 |||
    bit flags.buddyIsDespawned 0x40

/-- Some flag is set that only makes sense with a buddy to look for. -/
def searchesBuddy (flags : RowFlags) : Bool :=
  flags.buddyByGuid || flags.buddyIsPet || flags.buddyIsDespawned

end RowFlags

end WorldScripts
