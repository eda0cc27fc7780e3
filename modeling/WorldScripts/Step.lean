import WorldScripts.Step.Handlers

/-!
Executing one command: finding its roles, then handing it to its handler.
-/

namespace WorldScripts

/-- What came of a command, the world it has left behind included. -/
structure Execution where
  outcome : Except StepError Outcome
  world : World
  log : List LogLine

def Execution.ofResult : EStateM.Result StepError StepState Outcome → Execution × Draws
  | .ok outcome after => (⟨.ok outcome, after.world, after.log⟩, after.draws)
  | .error error after => (⟨.error error, after.world, after.log⟩, after.draws)

namespace Instruction

def run (instruction : Instruction) (roles : Roles) (texts : Texts) : StepM Outcome := do
  let buddy ← instruction.findBuddy roles (← StepM.world)
  StepM.tell (instruction.buddyLines buddy)
  Step.dispatch ⟨instruction, instruction.flags.assign roles buddy⟩ texts

/-- Executes a command for a source and a target, and gives back the draws left. -/
def execute (instruction : Instruction) (roles : Roles) (world : World) (texts : Texts)
    (draws : Draws) : Execution × Draws :=
  Execution.ofResult (instruction.run roles texts { world, draws })

end Instruction

end WorldScripts
