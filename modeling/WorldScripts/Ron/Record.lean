import WorldScripts.Binary32
import WorldScripts.Ron.Reader

/-!
Reading numbers, texts, lists and records out of RON values. A record may have fields that are not
asked for; one that is asked for must not be there twice.
-/

namespace WorldScripts.Ron

def toInt? (kind : WordKind) : Ron → Option Int
  | integer n => n.ofKind? kind
  | _ => none

def toUInt8? (ron : Ron) : Option UInt8 :=
  (ron.toInt? .u8).map fun n => .ofNat n.toNat

def toUInt32? (ron : Ron) : Option UInt32 :=
  (ron.toInt? .u32).map fun n => .ofNat n.toNat

def toInt32? (ron : Ron) : Option Int32 :=
  (ron.toInt? .i32).map .ofInt

def toFloat32? : Ron → Option Float32
  | integer n => if n.plain then some (Numeral.toFloat32 ⟨n.negative, n.size, 0⟩) else none
  | float _ (some .f64) => none
  | float (.numeral n) _ => some n.toFloat32
  | float (.infinite negative) _ => some (Binary32.infinity negative)
  | float .nan _ => some Binary32.notANumber
  | _ => none

def toString? : Ron → Option String
  | string text => some text
  | _ => none

def toList? {α : Type} (read : Ron → Option α) : Ron → Option (List α)
  | list items => items.mapM read
  | _ => none

/-- How a record is made up: its name, which need not be written unless names are asked for, and the
names of the fields that are asked for. -/
structure Form where
  name : String
  fields : List String

def Form.accepts (form : Form) (settings : Settings) : Option String → Bool
  | some name => name == form.name
  | none => !settings.explicitNames

def fields? (settings : Settings) (form : Form) (ron : Ron) : Option (List (String × Ron)) := do
  let (name, fields) ← match ron with
    | unit => some (none, [])
    | tuple name [] => some (name, [])
    | record name fields => some (name, fields)
    | _ => none
  let wanted := (fields.map (·.1)).filter form.fields.contains
  if form.accepts settings name && wanted.eraseDups.length = wanted.length then some fields
  else none

def needed {α : Type} (fields : List (String × Ron)) (read : Ron → Option α) (name : String) :
    Option α := do
  let (_, value) ← fields.find? fun field => field.1 == name
  read value

def optional {α : Type} (fields : List (String × Ron)) (read : Ron → Option α) (name : String)
    (default : α) : Option α :=
  match fields.find? fun field => field.1 == name with
  | some (_, value) => read value
  | none => some default

end WorldScripts.Ron
