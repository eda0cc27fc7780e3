/-!
The names of native scripts, and the area triggers and events bound to them, as they are stored.
-/

namespace WorldScripts

/-- A trigger or an event and the script it is bound to. -/
structure ScriptBinding where
  id : UInt32
  script : String
  deriving DecidableEq, Repr

structure ScriptNames where
  names : List String := []
  areaTriggers : List ScriptBinding := []
  events : List ScriptBinding := []
  deriving DecidableEq, Repr

namespace ScriptNames

instance : Inhabited ScriptNames := ⟨{}⟩

/-- What is wrong with bindings of one kind: a name that is empty, and an id that was bound before.
A binding without a name does not count as binding its id. -/
def bindingFaults (kind : String) (seen : List UInt32) : List ScriptBinding → List String
  | [] => []
  | binding :: rest =>
      if binding.script.isEmpty then
        s!"{kind} {binding.id} is bound to an empty script name" :: bindingFaults kind seen rest
      else if seen.contains binding.id then
        s!"{kind} {binding.id} is bound more than once" :: bindingFaults kind seen rest
      else bindingFaults kind (binding.id :: seen) rest

def faults (names : ScriptNames) : List String :=
  bindingFaults "area trigger" [] names.areaTriggers ++ bindingFaults "event" [] names.events

end ScriptNames

end WorldScripts
