/-!
What `GO_LOCK_STATE` does to a gameobject.
-/

namespace WorldScripts

structure LockState where
  lock : Bool := false
  unlock : Bool := false
  notInteractable : Bool := false
  interactable : Bool := false
  deriving DecidableEq, Repr

namespace LockState

/-- Four bits are in use; a number with any other bit set is no lock state. -/
def ofNumber? (n : UInt32) : Option LockState :=
  if n < 16 then
    some {
      lock := n &&& 1 != 0
      unlock := n &&& 2 != 0
      notInteractable := n &&& 4 != 0
      interactable := n &&& 8 != 0 }
  else none

def toNumber (state : LockState) : UInt32 :=
  let bit (set : Bool) (value : UInt32) : UInt32 := if set then value else 0
  bit state.lock 1 ||| bit state.unlock 2 ||| bit state.notInteractable 4 |||
    bit state.interactable 8

def isEmpty (state : LockState) : Bool :=
  !(state.lock || state.unlock || state.notInteractable || state.interactable)

/-- An object cannot be locked and unlocked, nor be made both usable and unusable. -/
def contradicts (state : LockState) : Bool :=
  (state.lock && state.unlock) || (state.notInteractable && state.interactable)

def names (state : LockState) : List String :=
  [(state.lock, "LOCK"), (state.unlock, "UNLOCK"), (state.notInteractable, "NOT_INTERACTABLE"),
    (state.interactable, "INTERACTABLE")].filterMap fun (set, name) => if set then some name else none

def describe (state : LockState) : String :=
  "GoLockFlags(" ++ " | ".intercalate state.names ++ ")"

end LockState

end WorldScripts
