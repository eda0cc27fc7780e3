/-!
Sets of characters. A set is given by the code points at which membership changes: below the first
one no character is in the set, from there on all are, up to the second one, and so forth.
-/

namespace WorldScripts

structure CharSet where
  bounds : List Nat

def CharSet.contains (set : CharSet) (c : Char) : Bool :=
  (set.bounds.takeWhile fun bound => bound ≤ c.toNat).length % 2 = 1

end WorldScripts
