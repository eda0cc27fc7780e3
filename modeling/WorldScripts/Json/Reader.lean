import WorldScripts.Json
import WorldScripts.Text.Hexadecimal

/-!
Reading JSON text. A number keeps the sign of its zero, and a pair of escapes for the two halves of
a character is read as that character.
-/

namespace WorldScripts.Json

def isBlank (c : Char) : Bool :=
  c = ' ' || c = '\n' || c = '\r' || c = '\t'

def skipBlank (cs : List Char) : List Char :=
  cs.dropWhile isBlank

def hexValue? (a b c d : Char) : Option Nat := do
  some ((((← hexDigit? a) * 16 + (← hexDigit? b)) * 16 + (← hexDigit? c)) * 16 + (← hexDigit? d))

def isHighHalf (n : Nat) : Bool := 0xD800 ≤ n && n < 0xDC00
def isLowHalf (n : Nat) : Bool := 0xDC00 ≤ n && n < 0xE000

def unescape? : Char → Option Char
  | '"' => some '"'
  | '\\' => some '\\'
  | '/' => some '/'
  | 'b' => some '\x08'
  | 'f' => some '\x0c'
  | 'n' => some '\n'
  | 'r' => some '\r'
  | 't' => some '\t'
  | _ => none

/-- Reads a string behind its opening quote; `acc` holds what was read, the last character first. -/
def readString (acc : List Char) : List Char → Option (String × List Char)
  | '"' :: rest => some (String.ofList acc.reverse, rest)
  | '\\' :: 'u' :: a :: b :: c :: d :: '\\' :: 'u' :: e :: f :: g :: h :: rest =>
      match hexValue? a b c d, hexValue? e f g h with
      | some high, some low =>
          if isHighHalf high && isLowHalf low then
            let code := 0x10000 + (high - 0xD800) * 0x400 + (low - 0xDC00)
            readString (Char.ofNat code :: acc) rest
          else readString (Char.ofNat high :: acc) ('\\' :: 'u' :: e :: f :: g :: h :: rest)
      | _, _ => none
  | '\\' :: 'u' :: a :: b :: c :: d :: rest =>
      match hexValue? a b c d with
      | some code => readString (Char.ofNat code :: acc) rest
      | none => none
  | '\\' :: c :: rest =>
      match unescape? c with
      | some c => readString (c :: acc) rest
      | none => none
  | c :: rest => readString (c :: acc) rest
  | [] => none
  termination_by cs => cs.length

def readList {α : Type} (readOne : List Char → Option (α × List Char)) (close : Char) :
    Nat → List α → List Char → Option (List α × List Char)
  | 0, _, _ => none
  | fuel + 1, acc, cs =>
      match readOne cs with
      | none => none
      | some (value, rest) =>
          match skipBlank rest with
          | c :: rest =>
              if c = close then some ((value :: acc).reverse, rest)
              else if c = ',' then readList readOne close fuel (value :: acc) rest
              else none
          | [] => none

def readField {α : Type} (readOne : List Char → Option (α × List Char)) (cs : List Char) :
    Option ((String × α) × List Char) :=
  match skipBlank cs with
  | '"' :: rest => do
      let (name, rest) ← readString [] rest
      match skipBlank rest with
      | ':' :: rest =>
          let (value, rest) ← readOne rest
          some ((name, value), rest)
      | _ => none
  | _ => none

/-- Reads a value no deeper than the first number allows. -/
def readValue : Nat → List Char → Option (Json × List Char)
  | 0, _ => none
  | depth + 1, cs =>
      match skipBlank cs with
      | 'n' :: 'u' :: 'l' :: 'l' :: rest => some (null, rest)
      | 't' :: 'r' :: 'u' :: 'e' :: rest => some (bool true, rest)
      | 'f' :: 'a' :: 'l' :: 's' :: 'e' :: rest => some (bool false, rest)
      | '"' :: rest => (readString [] rest).map fun (value, rest) => (string value, rest)
      | '[' :: rest =>
          match skipBlank rest with
          | ']' :: rest => some (array [], rest)
          | rest =>
              (readList (readValue depth) ']' rest.length [] rest).map
                fun (items, rest) => (array items, rest)
      | '\x7b' :: rest =>
          match skipBlank rest with
          | '\x7d' :: rest => some (object [], rest)
          | rest =>
              (readList (readField (readValue depth)) '\x7d' rest.length [] rest).map
                fun (fields, rest) => (object fields, rest)
      | cs => (Numeral.read? cs).map fun (value, rest) => (number value, rest)

def parse? (text : String) : Option Json :=
  let cs := text.toList
  match readValue (cs.length + 1) cs with
  | some (value, rest) => if (skipBlank rest).isEmpty then some value else none
  | none => none

end WorldScripts.Json
