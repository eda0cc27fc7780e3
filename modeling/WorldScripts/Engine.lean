import WorldScripts.Action
import WorldScripts.Schedule
import WorldScripts.ScheduledScriptCounter

/-!
Running fired scripts. An update takes the actions that are due one after the other and runs each of
them until it has to wait for a later command, is ended, or has nothing left.
-/

namespace WorldScripts

structure Engine where
  schedule : Schedule Action := {}
  counter : ScheduledScriptCounter := {}
  draws : Draws := default
  fired : Nat := 0

instance : Inhabited Engine := ⟨{}⟩

inductive Ending where
  | waits (due : UInt64) (action : Action)
  | finished
  | abandoned (gone : Guid)
  | terminated
  deriving DecidableEq

/-- A command that was run: for which action, when, and in which world. -/
structure Turn where
  action : Action
  instruction : Instruction
  now : UInt64
  world : World

structure ActionRun where
  ending : Ending
  ran : Nat := 0
  turns : List Turn := []
  world : World
  draws : Draws
  log : List LogLine := []

namespace Action

def skipLine (action : Action) (error : StepError) : LogLine :=
  let text := s!"{action.title} command skipped: {error.message}"
  if error.isOrdinary then .debug text else .warn text

/-- Runs commands of an action, given as those that remain, as far as they are due. -/
def runRest (action : Action) (now : UInt64) (texts : Texts) :
    List Instruction → World → Draws → ActionRun
  | [], world, draws =>
      { ending := .finished, world, draws, log := [.debug s!"{action.title} finished"] }
  | instruction :: rest, world, draws =>
      let due := action.dueOf instruction
      if now < due then
        { ending := .waits due { action with rest := instruction :: rest }, world, draws }
      else
        match action.absentee? world with
        | some gone =>
            let line := s!"{action.title} abandoned with {rest.length + 1} commands left, " ++
              s!"{gone} left the world"
            { ending := .abandoned gone, world, draws, log := [.info line] }
        | none =>
            let turn : Turn := ⟨action, instruction, now, world⟩
            let (done, draws) := instruction.execute action.roles world texts draws
            match done.outcome with
            | .ok .terminate =>
                let line := s!"{action.title} terminated by script {instruction.key}"
                { ending := .terminated, ran := 1, turns := [turn], world := done.world, draws,
                  log := done.log ++ [.info line] }
            | .ok .proceed =>
                let later := runRest action now texts rest done.world draws
                { later with
                  ran := later.ran + 1
                  turns := turn :: later.turns
                  log := done.log ++ later.log }
            | .error error =>
                let later := runRest action now texts rest done.world draws
                { later with
                  ran := later.ran + 1
                  turns := turn :: later.turns
                  log := done.log ++ action.skipLine error :: later.log }

theorem runRest_waits_later {action waiting : Action} {now due : UInt64} {texts : Texts}
    {rest : List Instruction} {world : World} {draws : Draws}
    (ending : (action.runRest now texts rest world draws).ending = .waits due waiting) :
    now < due := by
  induction rest generalizing world draws with
  | nil => simp [runRest] at ending
  | cons instruction rest ih =>
      simp only [runRest] at ending
      split at ending
      · rename_i later
        cases ending
        exact later
      · split at ending
        · cases ending
        · split at ending
          · cases ending
          · exact ih ending
          · exact ih ending

def run (action : Action) (now : UInt64) (texts : Texts) (world : World) (draws : Draws) :
    ActionRun :=
  action.runRest now texts action.rest world draws

end Action

structure EngineRun where
  engine : Engine
  world : World
  ran : Nat := 0
  /-- The actions that were taken, in order, and what running each came to. -/
  runs : List (Action × ActionRun) := []
  log : List LogLine := []

namespace Engine

def pending (engine : Engine) : Nat :=
  engine.schedule.size

def nextDue? (engine : Engine) : Option UInt64 :=
  engine.schedule.nextDue?

def actions (engine : Engine) : List Action :=
  engine.schedule.pending

def ownerOf? (world : World) (source : Option Guid) : Option Guid := do
  let item ← source
  if item.kind = .item then (← world.entity? item).owner else none

def guidText (guid : Option Guid) : String :=
  (guid.map Guid.describe).getD "none"

def prepare (engine : Engine) (table : ScriptTable) (key : UInt32) (commands : List Instruction)
    (roles : Roles) (now : UInt64) (world : World) : Action where
  id := engine.fired
  table := table
  key := key
  roles := roles
  owner := ownerOf? world roles.source
  startedAt := now
  rest := Action.order commands

/-- Fires a script, unless it has no commands. The log line leaves a mark in the place of a name that
would differ from one firing to the next. -/
def fire (engine : Engine) (table : ScriptTable) (key : UInt32) (commands : List Instruction)
    (roles : Roles) (now : UInt64) (world : World) : Logged (Bool × Engine) :=
  let action := engine.prepare table key commands roles now world
  match action.nextDue? with
  | none => ⟨(false, engine), [.debug s!"{table} has no script for key {key}"]⟩
  | some due =>
      let line := s!"{action.title} fired as <uuid> ({action.remaining} commands, " ++
        s!"source {guidText roles.source}, target {guidText roles.target})"
      let fired := { engine with
        schedule := engine.schedule.add due action
        counter := engine.counter.increase
        fired := engine.fired + 1 }
      ⟨(true, fired), [.info line]⟩

def settle (engine : Engine) (run : ActionRun) : Engine :=
  match run.ending with
  | .waits due action =>
      { engine with schedule := engine.schedule.add due action, draws := run.draws }
  | .finished | .abandoned _ | .terminated =>
      { engine with counter := engine.counter.decrease, draws := run.draws }

theorem dueMarks_settle (engine : Engine) (action : Action) (now : UInt64) (texts : Texts)
    (world : World) (draws : Draws) :
    (engine.settle (action.run now texts world draws)).schedule.dueMarks now =
      engine.schedule.dueMarks now := by
  unfold settle
  cases ending : (action.run now texts world draws).ending with
  | waits due waiting =>
      exact Schedule.dueMarks_add_later _ waiting (Action.runRest_waits_later ending)
  | finished => rfl
  | abandoned gone => rfl
  | terminated => rfl

/-- Runs all that is due by now, one action after the other. An action that goes on waiting waits for
a time to come, so that the marks that are due become fewer. -/
def update (engine : Engine) (now : UInt64) (world : World) (texts : Texts) : EngineRun :=
  match _ : engine.schedule.popDue now with
  | (none, schedule) => { engine := { engine with schedule }, world }
  | (some (_, action), schedule) =>
      let run := action.run now texts world engine.draws
      let later := update (settle { engine with schedule } run) now run.world texts
      { later with
        ran := run.ran + later.ran
        runs := (action, run) :: later.runs
        log := run.log ++ later.log }
  termination_by engine.schedule.dueMarks now
  decreasing_by
    rw [dueMarks_settle]
    exact Schedule.dueMarks_popDue_lt (by assumption)

/-- Drops the actions that cannot go on without an entity, and tells how many there were. -/
def cancelFor (engine : Engine) (guid : Guid) : Logged (Nat × Engine) :=
  let (removed, schedule) := engine.schedule.cancelWhere (·.involves guid)
  let dropped := removed.length
  if dropped = 0 then ⟨(0, { engine with schedule }), []⟩
  else
    ⟨(dropped, { engine with schedule, counter := engine.counter.decreaseBy dropped }),
      [.info s!"{dropped} pending scripts of {guid} cancelled"]⟩

end Engine

end WorldScripts
