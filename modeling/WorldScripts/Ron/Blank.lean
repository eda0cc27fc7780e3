/-!
What stands between the values of a RON text: blanks, comments to the end of the line, and comments
between marks, which nest.
-/

namespace WorldScripts.Ron

def isBlank (c : Char) : Bool :=
  ('\t' ≤ c && c ≤ '\r') || c = ' ' || c.toNat = 0x85 || c.toNat = 0x200e || c.toNat = 0x200f ||
    c.toNat = 0x2028 || c.toNat = 0x2029

inductive Between where
  | open
  | line
  | marked (more : Nat)
  deriving DecidableEq, Repr

/-- Skips blanks and comments, from a place between values on. -/
def skipFrom : Between → List Char → Option (List Char)
  | .open, '/' :: '/' :: rest => skipFrom .line rest
  | .open, '/' :: '*' :: rest => skipFrom (.marked 0) rest
  | .open, '/' :: _ => none
  | .open, c :: rest => if isBlank c then skipFrom .open rest else some (c :: rest)
  | .open, [] => some []
  | .line, c :: rest => if c = '\n' then skipFrom .open rest else skipFrom .line rest
  | .line, [] => some []
  | .marked more, '/' :: '*' :: rest => skipFrom (.marked (more + 1)) rest
  | .marked 0, '*' :: '/' :: rest => skipFrom .open rest
  | .marked (more + 1), '*' :: '/' :: rest => skipFrom (.marked more) rest
  | .marked more, _ :: rest => skipFrom (.marked more) rest
  | .marked _, [] => none

def skipBlank (cs : List Char) : Option (List Char) :=
  skipFrom .open cs

def skipComma (cs : List Char) : Option (Bool × List Char) := do
  match ← skipBlank cs with
  | ',' :: rest => some (true, ← skipBlank rest)
  | cs => some (false, cs)

end WorldScripts.Ron
