import WorldScripts.Manager
import WorldScripts.Proofs.Engine.SingleAction
import WorldScripts.Proofs.Scripts.Lookup

/-!
A script from the rows of its table to its last command. The commands under the key of a trigger are
put in the order of their delays; once all of them are due they are gone through in that order. Here
this is told without an engine, and without any times.
-/

namespace WorldScripts

/-- The source, and whoever holds it if it is an item. -/
def Roles.DependOn (roles : Roles) (world : World) (guid : Guid) : Prop :=
  roles.source = some guid ∨ ∃ item entity, roles.source = some item ∧ item.kind = .item ∧
    world.entity? item = some entity ∧ entity.owner = some guid

/-- A script is gone through from its first command on, until somebody who is needed is missing or a
command ends it. The list at the end is of the commands that were executed. -/
inductive SequenceRun (needed : Guid → Prop) (roles : Roles) (texts : Texts) :
    List Instruction → World → Draws → List Instruction → World → Draws → Prop where
  | finished {world : World} {draws : Draws} :
      SequenceRun needed roles texts [] world draws [] world draws
  | abandoned {instruction : Instruction} {rest : List Instruction} {world : World} {draws : Draws}
      {gone : Guid} : needed gone → ¬ world.Present gone →
      SequenceRun needed roles texts (instruction :: rest) world draws [] world draws
  | terminated {instruction : Instruction} {rest : List Instruction} {world : World}
      {draws left : Draws} {done : Execution} :
      (∀ guid, needed guid → world.Present guid) →
      instruction.execute roles world texts draws = (done, left) →
      done.outcome = .ok .terminate →
      SequenceRun needed roles texts (instruction :: rest) world draws [instruction] done.world left
  | proceeds {instruction : Instruction} {rest executed : List Instruction} {world after : World}
      {draws left last : Draws} {done : Execution} :
      (∀ guid, needed guid → world.Present guid) →
      instruction.execute roles world texts draws = (done, left) →
      done.outcome ≠ .ok .terminate →
      SequenceRun needed roles texts rest done.world left executed after last →
      SequenceRun needed roles texts (instruction :: rest) world draws (instruction :: executed) after last

section

variable {needed : Guid → Prop} {roles : Roles} {texts : Texts} {script : List Instruction}
variable {world : World} {draws : Draws}

theorem SequenceRun.unique {executed executed' : List Instruction} {after after' : World}
    {left left' : Draws} (one : SequenceRun needed roles texts script world draws executed after left)
    (other : SequenceRun needed roles texts script world draws executed' after' left') :
    executed = executed' ∧ after = after' ∧ left = left' := by
  -- What each way of going on requires rules out the others.
  induction one generalizing executed' after' left' with
  | finished =>
      cases other
      exact ⟨rfl, rfl, rfl⟩
  | abandoned needs missing =>
      cases other with
      | abandoned => exact ⟨rfl, rfl, rfl⟩
      | terminated present => exact absurd (present _ needs) missing
      | proceeds present => exact absurd (present _ needs) missing
  | terminated present executes terminate =>
      cases other with
      | abandoned needs missing => exact absurd (present _ needs) missing
      | terminated _ executes' =>
          cases executes.symm.trans executes'
          exact ⟨rfl, rfl, rfl⟩
      | proceeds _ executes' proceed =>
          cases executes.symm.trans executes'
          exact absurd terminate proceed
  | proceeds present executes proceed _ ih =>
      cases other with
      | abandoned needs missing => exact absurd (present _ needs) missing
      | terminated _ executes' terminate =>
          cases executes.symm.trans executes'
          exact absurd terminate proceed
      | proceeds _ executes' _ further =>
          cases executes.symm.trans executes'
          obtain ⟨rfl, rfl, rfl⟩ := ih further
          exact ⟨rfl, rfl, rfl⟩

end

theorem Action.runRest_sequenceRun {action : Action} {now : UInt64} {rest : List Instruction}
    (due : ∀ instruction ∈ rest, ¬ now < action.dueOf instruction) (texts : Texts) (world : World)
    (draws : Draws) :
    let run := action.runRest now texts rest world draws
    SequenceRun action.Needs action.roles texts rest world draws (run.turns.map Turn.instruction)
        run.world run.draws ∧
      run.ending.left = [] := by
  induction rest generalizing world draws with
  | nil => exact ⟨.finished, rfl⟩
  | cons instruction rest ih =>
      obtain ⟨first, others⟩ := List.forall_mem_cons.mp due
      rcases action.command_cases now texts instruction world draws with early | ⟨reached,
        ⟨gone, absent⟩ | ⟨present, done, left, executed, terminate | proceed⟩⟩
      · -- Nothing that is due is waited for.
        exact absurd early first
      · obtain ⟨needs, missing⟩ := Action.absentee?_eq_some absent
        rw [action.runRest_absent reached absent]
        exact ⟨.abandoned needs missing, rfl⟩
      · rw [action.runRest_terminate reached present executed terminate]
        exact ⟨.terminated (absentee?_eq_none.mp present) executed terminate, rfl⟩
      · obtain ⟨sequence, ended⟩ := ih others done.world left
        rw [action.runRest_proceed reached present executed proceed]
        exact ⟨.proceeds (absentee?_eq_none.mp present) executed proceed sequence, ended⟩

namespace Engine

theorem ownerOf?_eq_some {world : World} {source : Option Guid} {guid : Guid} :
    ownerOf? world source = some guid ↔ ∃ item entity, source = some item ∧ item.kind = .item ∧
      world.entity? item = some entity ∧ entity.owner = some guid := by
  unfold ownerOf?
  cases source with
  | none => simp
  | some item =>
      by_cases held : item.kind = .item
      · cases found : world.entity? item <;> simp [held, found]
      · simp [held]

section

variable (engine : Engine) (table : ScriptTable) (key : UInt32) (commands : List Instruction)
variable (roles : Roles) (now : UInt64) (world : World)

theorem prepare_needs :
    (engine.prepare table key commands roles now world).Needs = roles.DependOn world := by
  funext guid
  exact propext (or_congr_right ownerOf?_eq_some)

theorem prepare_rest {script : List Instruction}
    (sorted : StablySorted (fun instruction => instruction.delay.toNat) commands script) :
    (engine.prepare table key commands roles now world).rest = script :=
  (stablySorted_mergeSort _ commands).unique sorted

end

theorem fire_started (engine : Engine) (table : ScriptTable) (key : UInt32)
    (commands : List Instruction) (roles : Roles) (now : UInt64) (world : World) :
    (engine.fire table key commands roles now world).value.1 = true ↔ commands ≠ [] := by
  by_cases empty : commands = []
  · subst commands
    simp [fire_nil]
  · obtain ⟨due, next⟩ := exists_nextDue table key roles now world engine empty
    simp [fire_value table key roles now world engine next, empty]

theorem Tracks.fire_update {engine : Engine} (tracks : engine.Tracks []) (table : ScriptTable)
    (key : UInt32) {commands script : List Instruction}
    (sorted : StablySorted (fun instruction => instruction.delay.toNat) commands script)
    (roles : Roles) {start : UInt64} (timely : Timely start) (world : World) {now : UInt64}
    (due : ∀ instruction ∈ script, start.toNat + instruction.delay.toNat ≤ now.toNat)
    (later : World) (texts : Texts) :
    let run := (engine.fire table key commands roles start world).value.2.update now later texts
    SequenceRun (roles.DependOn world) roles texts script later engine.draws
        (run.turns.map Turn.instruction) run.world run.engine.draws ∧
      run.ran = run.turns.length ∧ run.engine.Tracks [] := by
  by_cases empty : commands = []
  · subst commands
    cases sorted.perm.eq_nil
    rw [fire_nil, Tracks.update_none tracks]
    exact ⟨.finished, rfl, tracks⟩
  · obtain ⟨first, next⟩ := exists_nextDue table key roles start world engine empty
    have fired := tracks.fire table key commands roles start world next
    have rest := prepare_rest engine table key commands roles start world sorted
    -- The script starts early enough for words to be compared as the numbers are.
    have reached : ∀ instruction ∈ script,
        ¬ now < (engine.prepare table key commands roles start world).dueOf instruction := by
      intro instruction member
      rw [UInt64.not_lt, UInt64.le_iff_toNat_le, Action.toNat_dueOf timely]
      exact due instruction member
    obtain ⟨sequence, ended⟩ := Action.runRest_sequenceRun reached texts later engine.draws
    rw [fire_value table key roles start world engine next] at fired ⊢
    obtain ⟨tracks, draws, after, ran, turns, _⟩ := fired.update_single now later texts
    rw [Action.run, rest] at tracks draws after ran turns
    rw [ended] at tracks
    rw [prepare_needs] at sequence
    intro run
    refine ⟨?_, ?_, tracks⟩
    · rw [turns, after, draws]
      exact sequence
    · rw [ran, turns]
      exact Action.runRest_ran _ _ _ _ _ _

end Engine

theorem Manager.start_value (manager : Manager) (trigger : Trigger) (roles : Roles) (now : UInt64)
    (world : World) :
    (manager.start trigger roles now world).value =
      let fired := (manager.engine.fire trigger.table trigger.key
        (manager.store.lookup trigger.table trigger.key) roles now world).value
      (fired.1, { manager with engine := fired.2 }) := rfl

/-- A trigger starts a script just when rows of its table under its key can be read. If nothing was
waiting, the first update at which all of the script is due goes through these rows in the order of
their delays, those with one delay in the order of the table, and leaves nothing waiting. -/
theorem Manager.start_update {manager : Manager} (trigger : Trigger) {rows : List Row}
    {options : DecodeOptions} {script : List Instruction} {start : UInt64}
    (attainable : manager.engine.Attainable)
    (stored : manager.store.table trigger.table =
      (Scripts.ofRows rows trigger.table options).value.1)
    (sorted : StablySorted (fun instruction => instruction.delay.toNat)
      (Scripts.decodeUnder rows options trigger.key) script)
    (timely : Timely start) (roles : Roles) (world : World) :
    let started := (manager.start trigger roles start world).value
    (started.1 = true ↔ script ≠ []) ∧
      (manager.engine.pending = 0 → ∀ now : UInt64,
        (∀ instruction ∈ script, start.toNat + instruction.delay.toNat ≤ now.toNat) →
        ∀ later : World,
          let run := started.2.update now later
          (∀ executed after left,
              SequenceRun (roles.DependOn world) roles manager.texts script later manager.engine.draws
                executed after left ↔
              executed = run.turns.map Turn.instruction ∧ after = run.world ∧
                left = run.engine.draws) ∧
            run.ran = run.turns.length ∧ run.engine.pending = 0 ∧
            run.engine.counter.count = 0) := by
  intro started
  obtain ⟨agenda, tracks⟩ := attainable.tracks
  have commands : manager.store.lookup trigger.table trigger.key =
      Scripts.decodeUnder rows options trigger.key := by
    rw [Store.lookup, stored, Scripts.lookup_ofRows]
  have fired : started = _ := manager.start_value trigger roles start world
  rw [commands] at fired
  rw [fired]
  refine ⟨?_, ?_⟩
  · rw [Engine.fire_started, ← List.length_pos_iff, ← List.length_pos_iff, sorted.perm.length_eq]
  · intro idle now due later run
    -- With nothing pending the count is zero as well.
    cases List.length_eq_zero_iff.mp (tracks.schedule.size.symm.trans idle)
    obtain ⟨sequence, ran, left⟩ :=
      tracks.fire_update trigger.table trigger.key sorted roles timely world due later manager.texts
    refine ⟨fun executed after left => ⟨fun other => other.unique sequence, ?_⟩, ran,
      left.schedule.size, left.counter⟩
    rintro ⟨rfl, rfl, rfl⟩
    exact sequence

-- A script whose third command ends it, among rows that do not belong to it or cannot be read.
def Row.eventRows : List Row :=
  [{ id := 7, delay := 9, command := 1, datalong := 2 }, { id := 8, command := 41 },
    { id := 7, delay := 5, command := 1, datalong := 1 }, { id := 7, command := 99 },
    { id := 7, delay := 5, command := 31 }, { id := 7, delay := 2, command := 41 }]

def Instruction.eventCommands : List Instruction :=
  let number (delay : UInt32) (command : Command) : Instruction :=
    ⟨7, delay, command, {}, ⟨0, 0, .creature⟩, {}⟩
  [number 9 (.emote 2), number 5 (.emote 1), number 5 (.terminateScript 0 0 0), number 2 .respawn]

theorem Scripts.decodeUnder_eventRows :
    decodeUnder Row.eventRows {} 7 = Instruction.eventCommands := rfl

def Manager.withEventRows : Manager where
  store := (({} : Store).replace .event (Scripts.ofRows Row.eventRows .event {}).value.1).value

def World.oneCreature : World :=
  ({} : World).spawn .creature 20 {}

theorem Manager.withEventRows_start_update :
    let started := (withEventRows.start (.event 7) ⟨some (.creature 20 1), none⟩ 10 .oneCreature).value
    let run := started.2.update 19 .oneCreature
    withEventRows.engine.Attainable ∧ Timely 10 ∧ withEventRows.engine.pending = 0 ∧
      started.1 = true ∧
      run.turns.map (fun turn => turn.instruction.tag) = [.respawn, .emote, .terminateScript] ∧
      run.engine.pending = 0 ∧ run.engine.counter.count = 0 := by
  have attainable : withEventRows.engine.Attainable := .new _
  have timely : Timely 10 := by decide
  have sorted := stablySorted_mergeSort (fun instruction : Instruction => instruction.delay.toNat)
    (Scripts.decodeUnder Row.eventRows {} 7)
  have commands : withEventRows.store.lookup .event 7 = Instruction.eventCommands :=
    (Scripts.lookup_ofRows Row.eventRows .event {} 7).trans Scripts.decodeUnder_eventRows
  obtain ⟨starts, plays⟩ := start_update (.event 7) attainable rfl sorted timely
    ⟨some (.creature 20 1), none⟩ .oneCreature
  have due : ∀ instruction ∈ Instruction.eventCommands,
      (10 : UInt64).toNat + instruction.delay.toNat ≤ (19 : UInt64).toNat := by decide
  obtain ⟨_, _, pending, counter⟩ :=
    plays rfl 19 (fun instruction member => due instruction (List.mem_mergeSort.mp member)) .oneCreature
  refine ⟨attainable, timely, rfl, starts.mpr ?_, ?_, pending, counter⟩
  · rw [← List.length_pos_iff, List.length_mergeSort]
    decide
  · -- Only the commands matter now, not the rows they were read from.
    rw [start_value, Trigger.table, Trigger.key, commands]
    show (((default : Engine).fire .event 7 Instruction.eventCommands ⟨some (.creature 20 1), none⟩ 10
      .oneCreature).value.2.update 19 .oneCreature {}).turns.map (fun turn => turn.instruction.tag) = _
    cbv

end WorldScripts
