import WorldScripts.ScriptTable
import WorldScripts.Step

/-!
Actions: scripts that have been fired and wait for their next command.
-/

namespace WorldScripts

structure Action where
  /-- Tells this firing from all others: how many there were before it. -/
  id : Nat
  table : ScriptTable
  key : UInt32
  roles : Roles
  /-- Who held the source, if that is an item, when the script was fired. -/
  owner : Option Guid
  startedAt : UInt64
  /-- The commands still to be run, in the order of their delays. -/
  rest : List Instruction
  deriving DecidableEq

namespace Action

/-- Commands in the order of their delays; those with one delay keep the order of loading. -/
def order (commands : List Instruction) : List Instruction :=
  commands.mergeSort fun a b => a.delay ≤ b.delay

def current? (action : Action) : Option Instruction :=
  action.rest.head?

def dueOf (action : Action) (instruction : Instruction) : UInt64 :=
  action.startedAt + instruction.delay.toUInt64

def nextDue? (action : Action) : Option UInt64 :=
  action.current?.map action.dueOf

def advance (action : Action) : Action :=
  { action with rest := action.rest.tail }

def isFinished (action : Action) : Bool :=
  action.rest.isEmpty

def remaining (action : Action) : Nat :=
  action.rest.length

def involves (action : Action) (guid : Guid) : Bool :=
  action.roles.source == some guid || action.owner == some guid

/-- A source or an owner that is no longer in the world. -/
def absentee? (action : Action) (world : World) : Option Guid :=
  (action.roles.source.toList ++ action.owner.toList).find? fun guid => !world.holds guid

def title (action : Action) : String :=
  s!"{action.table} {action.key}"

end Action

end WorldScripts
