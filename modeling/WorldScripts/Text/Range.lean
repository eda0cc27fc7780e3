/-!
Ranges of text ids. Texts are known by signed numbers, and the range a number falls in tells which
collection of texts it belongs to.
-/

namespace WorldScripts

inductive TextRange where
  | scriptString
  | scriptText
  | custom
  | gossip
  deriving DecidableEq, Repr

namespace TextRange

def ofId? (id : Int32) : Option TextRange :=
  if 2000000000 ≤ id ∧ id ≤ 2000010000 then some .scriptString
  else if -2000000 < id ∧ id ≤ -1000000 then some .scriptText
  else if -3000000 < id ∧ id ≤ -2000000 then some .custom
  else if -4000000 < id ∧ id ≤ -3000000 then some .gossip
  else none

end TextRange

end WorldScripts
