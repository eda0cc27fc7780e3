import WorldScripts.Decode.Error
import WorldScripts.Instruction
import WorldScripts.Row

/-!
The buddy of a row. Some commands may spell it in their second and third column as well; a row may
use either spelling, or both if they agree.
-/

namespace WorldScripts

structure DecodeOptions where
  maxSearchRadius : Float32 := visibleRange
  deriving DecidableEq

namespace Row

def rowBuddy (row : Row) : UInt32 × UInt32 :=
  (row.buddyEntry, row.searchRadiusOrGuid)

/-- Entry and radius in the older spelling. -/
def legacyBuddy (row : Row) : UInt32 × UInt32 :=
  (row.datalong2, row.datalong3)

def effectiveBuddy (row : Row) (traits : Traits) : Except BuddyFault (UInt32 × UInt32) :=
  if !traits.legacyBuddy || row.legacyBuddy = (0, 0) then .ok row.rowBuddy
  else if row.rowBuddy = (0, 0) || row.rowBuddy = row.legacyBuddy then .ok row.legacyBuddy
  else
    .error (.disagreement row.datalong2 row.datalong3 row.buddyEntry row.searchRadiusOrGuid)

def buddyFault? (options : DecodeOptions) (flags : RowFlags) (entry radiusOrGuid : UInt32) :
    Option BuddyFault :=
  if entry = 0 then
    if radiusOrGuid ≠ 0 then some (.searchWithoutEntry radiusOrGuid)
    else if flags.searchesBuddy then some .flagsWithoutEntry
    else if flags.buddyAsTarget then some .asTargetWithoutEntry
    else none
  else if flags.buddyByGuid then
    if flags.buddyIsPet then some .guidAndPet
    else if radiusOrGuid = 0 then some .guidZero
    else none
  else if flags.buddyIsPet then none
  else if radiusOrGuid = 0 || options.maxSearchRadius < radiusOrGuid.toFloat32 then
    some (.radiusOutside radiusOrGuid options.maxSearchRadius)
  else none

def buddy (row : Row) (options : DecodeOptions) (traits : Traits) (flags : RowFlags) :
    Except BuddyFault Buddy := do
  let (entry, radiusOrGuid) ← row.effectiveBuddy traits
  match buddyFault? options flags entry radiusOrGuid with
  | some fault => .error fault
  | none => .ok ⟨entry, radiusOrGuid, traits.buddy⟩

end Row

end WorldScripts
