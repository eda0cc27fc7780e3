import WorldScripts.Numeral

/-!
JSON values and how they are written. Fields keep the order they are given in.
-/

namespace WorldScripts

inductive Json where
  | null
  | bool (value : Bool)
  | number (value : Numeral)
  | string (value : String)
  | array (items : List Json)
  | object (fields : List (String × Json))
  deriving Inhabited

namespace Json

instance : Coe Bool Json := ⟨bool⟩
instance : Coe String Json := ⟨string⟩

def ofInt (n : Int) : Json := number (.ofInt n)
def ofNat (n : Nat) : Json := number (.ofInt n)

def ofOption {α : Type} (write : α → Json) : Option α → Json
  | none => null
  | some value => write value

def ofList {α : Type} (write : α → Json) (values : List α) : Json :=
  array (values.map write)

def field? (json : Json) (name : String) : Option Json :=
  match json with
  | object fields => (fields.find? fun field => field.1 == name).map (·.2)
  | _ => none

/-- The value of a field; a missing one is null. -/
def field (json : Json) (name : String) : Json :=
  (json.field? name).getD null

def items : Json → List Json
  | array items => items
  | _ => []

def string? : Json → Option String
  | string value => some value
  | _ => none

def text (json : Json) : String :=
  json.string?.getD ""

def isTrue : Json → Bool
  | bool value => value
  | _ => false

def toInt : Json → Int
  | number value => value.toInt
  | _ => 0

def toNat (json : Json) : Nat :=
  json.toInt.toNat

def escape (c : Char) : String :=
  if c = '"' then "\\\""
  else if c = '\\' then "\\\\"
  else if c.toNat < 0x20 ∨ c.toNat = 0x7f then
    "\\u" ++ String.ofList ((Nat.toDigits 16 c.toNat).leftpad 4 '0')
  else c.toString

def quote (text : String) : String :=
  (text.foldl (fun acc c => acc ++ escape c) "\"").push '"'

def numeralText (n : Numeral) : String :=
  let power := if n.exponent = 0 then "" else s!"e{n.exponent}"
  (if n.negative then "-" else "") ++ toString n.digits ++ power

mutual

def writeTo (acc : String) : Json → String
  | null => acc ++ "null"
  | bool true => acc ++ "true"
  | bool false => acc ++ "false"
  | number value => acc ++ numeralText value
  | string value => acc ++ quote value
  | array items => (writeItems (acc.push '[') items).push ']'
  | object fields => (writeFields (acc ++ "\x7b") fields) ++ "\x7d"

def writeItems (acc : String) : List Json → String
  | [] => acc
  | [item] => writeTo acc item
  | item :: rest => writeItems ((writeTo acc item).push ',') rest

def writeFields (acc : String) : List (String × Json) → String
  | [] => acc
  | [(name, value)] => writeTo (acc ++ quote name ++ ":") value
  | (name, value) :: rest => writeFields ((writeTo (acc ++ quote name ++ ":") value).push ',') rest

end

def render (json : Json) : String :=
  json.writeTo ""

end Json

end WorldScripts
