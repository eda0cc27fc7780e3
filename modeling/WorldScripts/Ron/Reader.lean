import WorldScripts.Ron.Group
import WorldScripts.Ron.Number

/-!
Reading RON text. What is read may be nested to a certain depth only: a list, a tuple, a record and
a map each take one level, and one more for what they hold; `Some` takes one for what it holds.
-/

namespace WorldScripts.Ron

/-- Settings that a text can begin with. -/
structure Settings where
  /-- Records are to be written with their names. -/
  explicitNames : Bool := false
  /-- What `Some` holds may be written without the parentheses of its own. -/
  unwrappedVariants : Bool := false
  /-- What `Some` holds may follow without parentheses around it. -/
  implicitPresence : Bool := false
  deriving DecidableEq, Repr

structure Scope where
  settings : Settings
  size : Nat

structure Document where
  settings : Settings
  value : Ron

def readItems {α : Type} (readOne : List Char → Option (α × List Char)) (close : Char) :
    Nat → List Char → Option (List α × List Char)
  | 0, _ => none
  | count + 1, cs => do
      let cs ← skipBlank cs
      if cs.head? = some close then some ([], cs.drop 1)
      else
        let (item, rest) ← readOne cs
        let (comma, rest) ← skipComma rest
        if comma then
          let (items, rest) ← readItems readOne close count rest
          some (item :: items, rest)
        else if rest.head? = some close then some ([item], rest.drop 1)
        else none

def readPair {α : Type} (readFirst : List Char → Option (α × List Char))
    (readOne : List Char → Option (Ron × List Char)) (cs : List Char) :
    Option ((α × Ron) × List Char) := do
  let (first, rest) ← readFirst cs
  match ← skipBlank rest with
  | ':' :: rest =>
      let (value, rest) ← readOne (← skipBlank rest)
      some ((first, value), rest)
  | _ => none

def opensRecord (cs : List Char) : Option Bool := do
  match readName (← skipBlank cs) with
  | none => some false
  | some (_, rest) => some ((← skipBlank rest).head? = some ':')

def readFields (scope : Scope) (readOne : List Char → Option (Ron × List Char))
    (name : Option String) (cs : List Char) : Option (Ron × List Char) := do
  if ← opensRecord cs then
    let (fields, rest) ← readItems (readPair readKey readOne) ')' scope.size cs
    some (.record name fields, rest)
  else
    let (items, rest) ← readItems readOne ')' scope.size cs
    some (.tuple name items, rest)

inductive Place where
  | own
  /-- Between the parentheses behind `Some`; the closing one belongs to what is read there. -/
  | held
  deriving DecidableEq, Repr

def readPresent (scope : Scope) (readInner : Place → List Char → Option (Ron × List Char))
    (cs : List Char) : Option (Ron × List Char) := do
  match ← skipBlank cs with
  | '(' :: rest =>
      let (value, rest) ← readInner .held (← skipBlank rest)
      some (.present value, rest)
  | rest =>
      if scope.settings.implicitPresence then
        let (value, rest) ← readInner .own rest
        some (.present value, rest)
      else none

def readWrapped (readOne : List Char → Option (Ron × List Char)) (cs : List Char) :
    Option (Ron × List Char) := do
  let (value, rest) ← readOne cs
  match ← skipComma rest with
  | (_, ')' :: rest) => some (value, rest)
  | _ => none

/-- Reads what `Some` holds behind the opening parenthesis: a value, or a group without a
parenthesis of its own if the settings let it be. -/
def readHeld (scope : Scope) (room : Bool) (readSelf readOne : List Char → Option (Ron × List Char))
    (cs : List Char) : Option (Ron × List Char) :=
  if scope.settings.unwrappedVariants then
    match cs with
    | ')' :: rest => some (.unit, rest)
    | _ => do
        if ← opensGroup scope.size cs then
          if room then readFields scope readOne none cs else none
        else readWrapped readSelf cs
  else readWrapped readSelf cs

def readPlain (scope : Scope) (room : Bool) (readOne : List Char → Option (Ron × List Char))
    (cs : List Char) : Option (Ron × List Char) :=
  match cs with
  | '(' :: rest => if room then readFields scope readOne none rest else none
  | '[' :: rest =>
      if room then
        (readItems readOne ']' scope.size rest).map fun (items, rest) => (.list items, rest)
      else none
  | '\x7b' :: rest =>
      if room then
        (readItems (readPair readOne readOne) '\x7d' scope.size rest).map
          fun (entries, rest) => (.map entries, rest)
      else none
  | '"' :: rest =>
      (readQuoted .text scope.size rest).map
        fun (text, rest) => (.string (String.ofList text), rest)
  | 'r' :: rest =>
      (readRawQuoted rest).map fun (text, rest) => (.string (String.ofList text), rest)
  | 'b' :: '\'' :: _ => readNumber cs
  | 'b' :: '"' :: rest =>
      (readQuoted .byte scope.size rest).map
        fun (text, rest) => (.bytes (String.ofList text), rest)
  | 'b' :: 'r' :: rest =>
      (readRawQuoted rest).map fun (text, rest) => (.bytes (String.ofList text), rest)
  | '\'' :: rest => (readChar rest).map fun (c, rest) => (.char c, rest)
  | c :: _ => if c.isDigit || c = '+' || c = '-' || c = '.' then readNumber cs else none
  | [] => none

/-- Reads a value on its own, of which the parts are read by the two readers given: what `Some`
holds by the first, what is in lists and the like by the second, if they are open to anything at
all. -/
def readOwn (scope : Scope) (room : Bool)
    (readInner : Place → List Char → Option (Ron × List Char))
    (readOne : List Char → Option (Ron × List Char)) (cs : List Char) :
    Option (Ron × List Char) :=
  match keyword? "true" cs, keyword? "false" cs, keyword? "Some" cs, keyword? "None" cs with
  | some rest, _, _, _ => some (.bool true, rest)
  | _, some rest, _, _ => some (.bool false, rest)
  | _, _, some rest, _ => readPresent scope readInner rest
  | _, _, _, some rest => some (.absent, rest)
  | none, none, none, none =>
      match cs with
      | '(' :: ')' :: rest => some (.unit, rest)
      | _ =>
          match if cs.head?.any isNameStart then readNamedNumber cs else none with
          | some read => some read
          | none =>
              match readName cs with
              | none => readPlain scope room readOne cs
              | some (name, rest) =>
                  match skipBlank rest with
                  | none => none
                  | some ('(' :: inside) =>
                      if room then readFields scope readOne (some name) inside else none
                  | some rest => some (.symbol name, rest)

def readWith (scope : Scope) (room : Bool)
    (readInner : Place → List Char → Option (Ron × List Char))
    (readOne : List Char → Option (Ron × List Char)) :
    Place → List Char → Option (Ron × List Char)
  | .own => readOwn scope room readInner readOne
  | .held => readHeld scope room (readOwn scope room readInner readOne) readOne

def readValue (scope : Scope) : Nat → Place → List Char → Option (Ron × List Char)
  | 0 => readWith scope false (fun _ _ => none) (fun _ => none)
  | 1 => readWith scope true (readValue scope 0) (fun _ => none)
  | depth + 2 => readWith scope true (readValue scope (depth + 1)) (readValue scope depth .own)

def depthLimit : Nat := 128

def dropWords? : List String → List Char → Option (List Char)
  | [], cs => some cs
  | word :: others, cs => do dropWords? others (← skipBlank (← dropWord? word.toList cs))

def Settings.enable? (settings : Settings) : String → Option Settings
  | "explicit_struct_names" => some { settings with explicitNames := true }
  | "unwrap_variant_newtypes" => some { settings with unwrappedVariants := true }
  | "unwrap_newtypes" => some settings
  | "implicit_some" => some { settings with implicitPresence := true }
  | _ => none

def readEnabled : Nat → Settings → List Char → Option (Settings × List Char)
  | 0, _, _ => none
  | count + 1, settings, cs => do
      let (name, rest) ← readKey cs
      let settings ← settings.enable? name
      let (comma, rest) ← skipComma rest
      match rest with
      | ')' :: _ => some (settings, rest)
      | _ => if comma then readEnabled count settings rest else none

def readSettings : Nat → Settings → List Char → Option (Settings × List Char)
  | 0, _, _ => none
  | count + 1, settings, cs =>
      match cs with
      | '#' :: _ => do
          let cs ← dropWords? ["#", "!", "[", "enable", "("] cs
          let (settings, rest) ← readEnabled (cs.length + 1) settings cs
          readSettings count settings (← dropWords? [")", "]"] rest)
      | _ => some (settings, cs)

def parse? (text : String) : Option Document := do
  let cs := text.toList
  let size := cs.length + 1
  let (settings, cs) ← readSettings size {} (← skipBlank cs)
  let (value, rest) ← readValue ⟨settings, size⟩ depthLimit .own cs
  if (← skipBlank rest).isEmpty then some ⟨settings, value⟩ else none

end WorldScripts.Ron
