import WorldScripts.Json
import WorldScripts.Position
import WorldScripts.ScriptTable
import WorldScripts.Guid

/-!
The exchange form of numbers, points and guids. A binary32 number is written by its bits, so that
nothing of it is lost, and read from a number or from a name for what no numeral stands for.
-/

namespace WorldScripts

namespace Json

def toUInt8 (json : Json) : UInt8 := .ofNat json.toNat
def toUInt32 (json : Json) : UInt32 := .ofNat json.toNat
def toUInt64 (json : Json) : UInt64 := .ofNat json.toNat
def toInt32 (json : Json) : Int32 := .ofInt json.toInt

/-- A number is taken as binary64 first. -/
def toFloat32 : Json → Float32
  | number value => Binary32.ofFloat64 value.toFloat64
  | string "NaN" => Binary32.notANumber
  | string "inf" => Binary32.infinity false
  | string "-inf" => Binary32.infinity true
  | _ => 0

def word? : Json → Option UInt32
  | number value =>
      if value.negative || value.exponent != 0 || UInt32.size ≤ value.digits then none
      else some (.ofNat value.digits)
  | _ => none

def word (json : Json) (name : String) : UInt32 := (json.field name).toUInt32
def longWord (json : Json) (name : String) : UInt64 := (json.field name).toUInt64
def signed (json : Json) (name : String) : Int32 := (json.field name).toInt32
def float (json : Json) (name : String) : Float32 := (json.field name).toFloat32
def flag (json : Json) (name : String) : Bool := (json.field name).isTrue
def textOf (json : Json) (name : String) : String := (json.field name).text
def itemsOf (json : Json) (name : String) : List Json := (json.field name).items

def ofWord (n : UInt32) : Json := ofNat n.toNat
def ofLongWord (n : UInt64) : Json := ofNat n.toNat
def ofSigned (n : Int32) : Json := ofInt n.toInt

/-- The eight hexadecimal digits of the bits, the same ones for all that is not a number. -/
def ofFloat32 (x : Float32) : Json :=
  if x.isNaN then "7fc00000"
  else string (String.ofList ((Nat.toDigits 16 x.toBits.toNat).leftpad 8 '0'))

end Json

namespace Position

def toJson (p : Position) : Json :=
  .ofList .ofFloat32 [p.x, p.y, p.z, p.o]

def ofJson (json : Json) : Position :=
  match json.items with
  | [x, y, z, o] => ⟨x.toFloat32, y.toFloat32, z.toFloat32, o.toFloat32⟩
  | _ => {}

end Position

def EntityKind.ofName? (name : String) : Option EntityKind :=
  [player, creature, pet, gameObject, item, corpse].find? fun kind => kind.name == name

def BuddyKind.toJson : BuddyKind → Json
  | .creature => "Creature"
  | .gameObject => "GameObject"

/-- Anything but the name of the other kind means a creature. -/
def BuddyKind.ofJson : Json → BuddyKind
  | .string "GameObject" => .gameObject
  | _ => .creature

namespace Guid

def toJson (guid : Guid) : Json :=
  .string s!"{guid.kind.name}:{guid.entry}:{guid.counter}"

def ofJson? (json : Json) : Option Guid := do
  match (← json.string?).splitOn ":" with
  | [kind, entry, counter] =>
      some ⟨← EntityKind.ofName? kind, .ofNat (← entry.toNat?), .ofNat (← counter.toNat?)⟩
  | _ => none

def ofJson (json : Json) : Guid :=
  (ofJson? json).getD (player 0)

end Guid

namespace Json

def guid (json : Json) (name : String) : Guid := .ofJson (json.field name)
def guid? (json : Json) (name : String) : Option Guid := Guid.ofJson? (json.field name)
def ofGuid? (guid : Option Guid) : Json := ofOption Guid.toJson guid

/-- A table by its name; without one, that of the events. -/
def table (json : Json) : ScriptTable :=
  (ScriptTable.ofName? (json.textOf "table")).getD .event

end Json

end WorldScripts
