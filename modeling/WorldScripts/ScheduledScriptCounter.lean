/-!
How many scripts are under way.
-/

namespace WorldScripts

structure ScheduledScriptCounter where
  count : Nat := 0
  deriving DecidableEq, Repr

namespace ScheduledScriptCounter

def increase (counter : ScheduledScriptCounter) : ScheduledScriptCounter :=
  ⟨counter.count + 1⟩

/-- Takes scripts off the count, which stops at zero. -/
def decreaseBy (counter : ScheduledScriptCounter) (n : Nat) : ScheduledScriptCounter :=
  ⟨counter.count - n⟩

def decrease (counter : ScheduledScriptCounter) : ScheduledScriptCounter :=
  counter.decreaseBy 1

def isScriptScheduled (counter : ScheduledScriptCounter) : Bool :=
  0 < counter.count

end ScheduledScriptCounter

end WorldScripts
