import WorldScripts.Text.CharSet.Identifier

/-!
Names in a RON text. A raw name, behind a mark of its own, may have points and signs in it.
-/

namespace WorldScripts.Ron

def isNameRest (c : Char) : Bool :=
  if c.toNat < 128 then c.isAlphanum || c = '_'
  else CharSet.identifierStart.contains c || CharSet.identifierRest.contains c

def isNameStart (c : Char) : Bool :=
  if c.toNat < 128 then c.isAlpha || c = '_'
  else CharSet.identifierStart.contains c

def isRawRest (c : Char) : Bool :=
  isNameRest c || c = '.' || c = '+' || c = '-'

/-- Takes a word off the front, as far as it is there. -/
def dropWord? : List Char → List Char → Option (List Char)
  | [], cs => some cs
  | _ :: _, [] => none
  | w :: word, c :: rest => if w = c then dropWord? word rest else none

def keyword? (word : String) (cs : List Char) : Option (List Char) := do
  let rest ← dropWord? word.toList cs
  if rest.head?.any isNameRest then none else some rest

def opensLiteral : List Char → Bool
  | 'b' :: '"' :: _ | 'b' :: '\'' :: _ | 'b' :: 'r' :: '#' :: _ | 'b' :: 'r' :: '"' :: _ => true
  | 'r' :: '"' :: _ | 'r' :: '#' :: '"' :: _ | 'r' :: '#' :: '#' :: _ => true
  | _ => false

def readName (cs : List Char) : Option (String × List Char) :=
  if opensLiteral cs then none
  else
    match cs with
    | 'r' :: '#' :: rest =>
        let name := rest.takeWhile isRawRest
        if name.isEmpty then none else some (String.ofList name, rest.dropWhile isRawRest)
    | c :: rest =>
        if isNameStart c then
          some (String.ofList (c :: rest.takeWhile isNameRest), rest.dropWhile isNameRest)
        else none
    | [] => none

/-- Reads a name in a place where there has to be one. There, a name that is not marked as raw must
not go on like a raw one. -/
def readKey (cs : List Char) : Option (String × List Char) := do
  let (name, rest) ← readName cs
  match cs with
  | 'r' :: '#' :: _ => some (name, rest)
  | _ => if rest.head?.any isRawRest then none else some (name, rest)

end WorldScripts.Ron
