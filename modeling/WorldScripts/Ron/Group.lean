import WorldScripts.Ron.Blank
import WorldScripts.Ron.Name
import WorldScripts.Ron.Quoted

/-!
Looking ahead behind an opening parenthesis that may stand for two things: it is put around one
value, or it opens a group, the fields or the items of a value without a parenthesis of its own.
-/

namespace WorldScripts.Ron

/-- What is left behind a reading; all of the text if nothing was read. -/
def pass {α : Type} (read : Option (α × List Char)) (cs : List Char) : List Char :=
  match read with
  | some (_, rest) => rest
  | none => cs

def passChar (cs : List Char) : List Char :=
  match cs with
  | '\'' :: rest => pass (readChar rest) cs
  | _ => cs

def passText (size : Nat) (cs : List Char) : List Char :=
  match cs with
  | '"' :: rest => pass (readQuoted .text size rest) cs
  | 'r' :: rest => pass (readRawQuoted rest) cs
  | _ => cs

def passBytes (size : Nat) (cs : List Char) : List Char :=
  match cs with
  | 'b' :: '"' :: rest => pass (readQuoted .byte size rest) cs
  | 'b' :: 'r' :: rest => pass (readRawQuoted rest) cs
  | _ => cs

def isOpening (c : Char) : Bool :=
  c = '(' || c = '[' || c = '\x7b'

def isClosing (c : Char) : Bool :=
  c = ')' || c = ']' || c = '\x7d'

def goesOn (cs : List Char) : Option Bool := do
  some ((← skipBlank cs).head? != some ')')

/-- Looks for a comma that the group goes on behind, with so many brackets open inside of it. Blanks
are skipped before each character, but not between a quoted text and the character behind it, which
therefore must not begin a comment. At most as many characters are looked at as the first number
says, and no quoted text is longer. -/
def findComma (size : Nat) : Nat → Nat → List Char → Option Bool
  | 0, _, _ => none
  | count + 1, inside, cs => do
      match passBytes size (passText size (passChar (← skipBlank cs))) with
      | [] => none
      | c :: rest =>
          if isOpening c then findComma size count (inside + 1) rest
          else if isClosing c then
            match inside with
            | 0 => some false
            | inside + 1 => findComma size count inside rest
          else if c = ',' && inside = 0 then goesOn rest
          else findComma size count inside rest

/-- Behind an opening parenthesis there are fields, or several items, rather than one value with or
without a comma. -/
def opensGroup (size : Nat) (cs : List Char) : Option Bool := do
  let cs ← skipBlank cs
  match readName cs with
  | none => findComma size size 0 cs
  | some (_, rest) =>
      match ← skipBlank rest with
      | ':' :: _ => some true
      | ',' :: rest => goesOn rest
      | ')' :: _ => some false
      | rest => findComma size size 0 rest

end WorldScripts.Ron
