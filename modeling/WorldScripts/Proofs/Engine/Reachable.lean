import Mathlib.Data.List.Permutation
import WorldScripts.Proofs.Engine.Drain

/-!
The engines that can come about by firing, updating and cancelling, and what is in step in all of
them: the count of scripts under way, the actions that wait, and the times they are filed under.
-/

namespace WorldScripts

def Instruction.emoteAfter (delay : UInt32) : Instruction where
  key := 7
  delay := delay
  command := .emote 1
  position := {}
  buddy := ⟨0, 0, .creature⟩
  flags := {}

namespace Engine

/-- What a new engine becomes, whatever happens to the worlds it is used with. -/
inductive Reachable : Engine → Prop where
  | new (draws : Draws) : Reachable { draws }
  | fire {engine : Engine} (table : ScriptTable) (key : UInt32) (commands : List Instruction)
      (roles : Roles) (now : UInt64) (world : World) : Reachable engine → Timely now →
      Reachable (engine.fire table key commands roles now world).value.2
  | update {engine : Engine} (now : UInt64) (world : World) (texts : Texts) : Reachable engine →
      Reachable (engine.update now world texts).engine
  | cancelFor {engine : Engine} (guid : Guid) : Reachable engine →
      Reachable (engine.cancelFor guid).value.2

/-- The actions that are over after they have been run. -/
def isOver (taken : Action × ActionRun) : Bool :=
  taken.2.ending.left.isEmpty

variable {engine : Engine} {agenda : Agenda Action}

theorem Keeps.update (keeps : engine.Keeps agenda) (now : UInt64) (world : World) (texts : Texts) :
    ∃ later, (engine.update now world texts).engine.Keeps later ∧
      later.length + (engine.update now world texts).runs.countP isOver = agenda.length := by
  refine keeps.update_induction (motive := fun _ agenda _ run =>
    ∃ later, run.engine.Keeps later ∧
      later.length + run.runs.countP isOver = agenda.length) ?_ ?_ world
  · intro engine agenda world keeps _
    exact ⟨agenda, keeps, rfl⟩
  · intro engine next before due action after world later _ _ _ run _ _ _ further
    obtain ⟨rest, keeps, count⟩ := further
    refine ⟨rest, keeps, ?_⟩
    -- The action that was taken either waits again or is over.
    have one : run.ending.left.length + (if isOver (action, run) then 1 else 0) = 1 := by
      unfold isOver
      cases run.ending <;> rfl
    simp only [List.countP_cons, List.length_append, List.length_cons] at count ⊢
    omega

theorem Reachable.keeps (reachable : engine.Reachable) : ∃ agenda, engine.Keeps agenda := by
  induction reachable with
  | new draws => exact ⟨[], keeps_new draws⟩
  | @fire engine table key commands roles now world _ timely ih =>
      obtain ⟨agenda, keeps⟩ := ih
      by_cases empty : commands = []
      · subst commands
        rw [fire_nil]
        exact ⟨agenda, keeps⟩
      · obtain ⟨due, next⟩ := exists_nextDue table key roles now world engine empty
        exact ⟨_, keeps.fire table key roles now world timely next⟩
  | update now world texts _ ih =>
      obtain ⟨agenda, keeps⟩ := ih
      obtain ⟨later, kept, _⟩ := keeps.update now world texts
      exact ⟨later, kept⟩
  | cancelFor guid _ ih =>
      obtain ⟨agenda, keeps⟩ := ih
      exact ⟨_, keeps.cancelFor guid⟩

/-- The count, the waiting actions and the schedule tell the same. -/
structure InStep (engine : Engine) : Prop where
  counter : engine.counter.count = engine.pending
  pending : engine.pending = engine.actions.length
  scheduled : engine.counter.isScriptScheduled = true ↔ engine.actions ≠ []
  current : ∀ action ∈ engine.actions, ∃ instruction, action.current? = some instruction
  filed : ∀ action ∈ engine.actions, ∃ due, engine.schedule.FiledUnder due action
  /-- Whatever is filed waits, under the time at which its current command is due. -/
  due : ∀ due action, engine.schedule.FiledUnder due action →
    action ∈ engine.actions ∧ action.nextDue? = some due ∧ due.toNat = action.dueTime
  next : engine.nextDue? = (engine.actions.filterMap Action.nextDue?).min?

theorem Keeps.inStep (keeps : engine.Keeps agenda) : engine.InStep := by
  have actions := keeps.actions
  constructor
  · rw [keeps.counter, keeps.pending]
  · rw [keeps.pending, actions, List.length_map]
  · rw [actions]
    simp [ScheduledScriptCounter.isScriptScheduled, keeps.counter, List.length_pos_iff]
  · intro action member
    rw [actions] at member
    obtain ⟨entry, inside, rfl⟩ := List.mem_map.mp member
    obtain ⟨instruction, current, _⟩ := Option.map_eq_some_iff.mp (keeps.filed entry inside)
    exact ⟨instruction, current⟩
  · intro action member
    rw [actions] at member
    obtain ⟨entry, inside, rfl⟩ := List.mem_map.mp member
    exact ⟨entry.1, (keeps.schedule.filedUnder_iff entry.1 entry.2).mpr inside⟩
  · intro due action filed
    have inside := (keeps.schedule.filedUnder_iff due action).mp filed
    refine ⟨?_, keeps.filed _ inside, (keeps.dueTime inside).symm⟩
    rw [actions]
    exact List.mem_map.mpr ⟨_, inside, rfl⟩
  · have times : engine.actions.filterMap Action.nextDue? = agenda.map Prod.fst := by
      rw [actions, List.filterMap_map, ← List.filterMap_eq_map]
      exact List.filterMap_congr fun entry member => keeps.filed entry member
    rw [times]
    exact keeps.schedule.nextDue?

/-- In every engine the count is the number of waiting actions, each of these has a command to go on
with and is filed under the time at which that is due, and the next time at which something is due is
the least of those. Cancelling takes off the count as much as it drops, and an update as many as are
over, so that the count never stops short at zero. -/
theorem reachable_inStep (reachable : engine.Reachable) :
    engine.InStep ∧
      (∀ guid, (engine.cancelFor guid).value.2.counter.count + (engine.cancelFor guid).value.1 =
        engine.counter.count) ∧
      ∀ now world texts, (engine.update now world texts).engine.counter.count +
        (engine.update now world texts).runs.countP isOver = engine.counter.count := by
  obtain ⟨agenda, keeps⟩ := reachable.keeps
  refine ⟨keeps.inStep, ?_, ?_⟩
  · intro guid
    have parts := List.length_eq_length_filter_add (l := agenda) fun entry => entry.2.involves guid
    rw [(keeps.cancelFor guid).counter, keeps.cancelFor_value, keeps.counter, parts]
    exact Nat.add_comm _ _
  · intro now world texts
    obtain ⟨later, kept, count⟩ := keeps.update now world texts
    rw [kept.counter, keeps.counter, count]

-- Three scripts that were fired at 10, with the delays of their commands.
def threePending : Engine :=
  let fire (engine : Engine) (delays : List UInt32) : Engine :=
    (engine.fire .event 7 (delays.map Instruction.emoteAfter) {} 10 {}).value.2
  fire (fire (fire default [5, 2, 5]) [100]) [9, 2]

theorem threePending_reachable : threePending.Reachable := by
  have early : Timely 10 := by decide
  exact .fire _ _ _ _ _ _ (.fire _ _ _ _ _ _ (.fire _ _ _ _ _ _ (.new _) early) early) early

theorem threePending_inStep :
    threePending.Reachable ∧ threePending.pending = 3 ∧ threePending.nextDue? = some 12 ∧
      threePending.InStep :=
  ⟨threePending_reachable, by cbv, by cbv, (reachable_inStep threePending_reachable).1⟩

end Engine

end WorldScripts
