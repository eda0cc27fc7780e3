import WorldScripts.Proofs.Engine.Drain
import WorldScripts.Proofs.Step.AllOrNothing

/-!
Engines whose scripts may be fired at any time. Close to the end of time the sum of a start and a
delay wraps around, and an action is no longer due when it should be. What is shown here does not
depend on that: the schedule still follows an agenda, and an update still takes one action after the
other and leads from world to world by effects the worlds accept.
-/

namespace WorldScripts

namespace Action

variable (action : Action) (now : UInt64) (texts : Texts)

theorem runRest_accepts (rest : List Instruction) (world : World) (draws : Draws) :
    ∃ accepted, world.Accepts accepted (action.runRest now texts rest world draws).world := by
  induction rest generalizing world draws with
  | nil => exact ⟨[], World.accepts_nil.mpr rfl⟩
  | cons instruction rest ih =>
      obtain ⟨accepted, first⟩ :=
        (instruction.execute_allOrNothing action.roles world texts draws).accepts
      simp only [runRest]
      split
      · exact ⟨[], World.accepts_nil.mpr rfl⟩
      · split
        · exact ⟨[], World.accepts_nil.mpr rfl⟩
        · split
          · exact ⟨accepted, first⟩
          · obtain ⟨further, later⟩ := ih _ _
            exact ⟨accepted ++ further, first.append later⟩
          · obtain ⟨further, later⟩ := ih _ _
            exact ⟨accepted ++ further, first.append later⟩

theorem runRest_turns (rest : List Instruction) (world : World) (draws : Draws) :
    ∀ turn ∈ (action.runRest now texts rest world draws).turns, turn.action = action := by
  induction rest generalizing world draws with
  | nil => simp [runRest]
  | cons instruction rest ih =>
      simp only [runRest]
      split
      · simp
      · split
        · simp
        · split
          · simp
          · simpa using ih _ _
          · simpa using ih _ _

end Action

namespace Engine

/-- What a new engine becomes, at whatever times its scripts are fired. -/
inductive Attainable : Engine → Prop where
  | new (draws : Draws) : Attainable { draws }
  | fire {engine : Engine} (table : ScriptTable) (key : UInt32) (commands : List Instruction)
      (roles : Roles) (now : UInt64) (world : World) : Attainable engine →
      Attainable (engine.fire table key commands roles now world).value.2
  | update {engine : Engine} (now : UInt64) (world : World) (texts : Texts) : Attainable engine →
      Attainable (engine.update now world texts).engine
  | cancelFor {engine : Engine} (guid : Guid) : Attainable engine →
      Attainable (engine.cancelFor guid).value.2

variable {engine : Engine} {agenda : Agenda Action} {now : UInt64} {texts : Texts}

theorem update_accepts (represents : engine.schedule.Represents agenda) (now : UInt64)
    (world : World) (texts : Texts) :
    ∃ accepted, world.Accepts accepted (engine.update now world texts).world := by
  refine update_induction (motive := fun _ _ world run =>
    ∃ accepted, world.Accepts accepted run.world) ?_ ?_ represents world
  · intro engine agenda world _ _
    exact ⟨[], World.accepts_nil.mpr rfl⟩
  · intro engine schedule before due action after world _ _ _ run next later further
    obtain ⟨accepted, first⟩ := action.runRest_accepts now texts action.rest world engine.draws
    obtain ⟨further, rest⟩ := further
    exact ⟨accepted ++ further, first.append rest⟩

theorem cancelFor_schedule (engine : Engine) (guid : Guid) :
    (engine.cancelFor guid).value.2.schedule =
      (engine.schedule.cancelWhere (·.involves guid)).2 := by
  simp only [Engine.cancelFor]
  split <;> rfl

theorem cancelFor_draws (engine : Engine) (guid : Guid) :
    (engine.cancelFor guid).value.2.draws = engine.draws := by
  simp only [Engine.cancelFor]
  split <;> rfl

theorem cancelFor_counter (engine : Engine) (guid : Guid) :
    (engine.cancelFor guid).value.2.counter.count =
      engine.counter.count - (engine.schedule.cancelWhere (·.involves guid)).1.length := by
  simp only [Engine.cancelFor]
  split
  · rename_i none
    rw [none, Nat.sub_zero]
  · rfl

theorem cancelFor_represents (represents : engine.schedule.Represents agenda) (guid : Guid) :
    (engine.cancelFor guid).value.2.schedule.Represents
      (agenda.filter fun entry => !entry.2.involves guid) := by
  rw [cancelFor_schedule]
  exact (represents.cancelWhere _).2

/-- The agenda of an engine, whenever its scripts were fired. Every action is filed under the word
that is computed for its current command, be that word too small or not. -/
structure Tracks (engine : Engine) (agenda : Agenda Action) : Prop where
  schedule : engine.schedule.Represents agenda
  counter : engine.counter.count = agenda.length
  filed : ∀ entry ∈ agenda, entry.2.nextDue? = some entry.1

theorem Tracks.fire (tracks : engine.Tracks agenda) (table : ScriptTable) (key : UInt32)
    (commands : List Instruction) (roles : Roles) (now : UInt64) (world : World) {due : UInt64}
    (next : (engine.prepare table key commands roles now world).nextDue? = some due) :
    (engine.fire table key commands roles now world).value.2.Tracks
      (agenda ++ [(due, engine.prepare table key commands roles now world)]) := by
  rw [fire_value table key roles now world engine next]
  refine ⟨tracks.schedule.add due _, ?_, ?_⟩
  · simp [ScheduledScriptCounter.increase, tracks.counter]
  · intro entry member
    rcases List.mem_append.mp member with before | last
    · exact tracks.filed entry before
    · rw [List.mem_singleton.mp last]
      exact next

theorem filed_left (action : Action) (now : UInt64) (texts : Texts) (world : World)
    (draws : Draws) : ∀ entry ∈ (action.run now texts world draws).ending.left,
      entry.2.nextDue? = some entry.1 := by
  rintro ⟨due, waiting⟩ member
  exact (Action.runRest_waits (Ending.mem_left.mp member)).1

theorem Tracks.settle {before after : Agenda Action} {due : UInt64} {action : Action}
    (tracks : engine.Tracks (before ++ (due, action) :: after)) {schedule : Schedule Action}
    (represents : schedule.Represents (before ++ after)) (now : UInt64) (texts : Texts)
    (world : World) (draws : Draws) :
    (Engine.settle { engine with schedule } (action.run now texts world draws)).Tracks
      (before ++ after ++ (action.run now texts world draws).ending.left) := by
  have filed := filed_left action now texts world draws
  have counter := tracks.counter
  refine ⟨settle_represents represents _, ?_, ?_⟩
  · simp only [List.length_append, List.length_cons] at counter
    unfold Engine.settle
    cases (action.run now texts world draws).ending <;>
      simp only [Ending.left, ScheduledScriptCounter.decrease, ScheduledScriptCounter.decreaseBy, counter,
        List.length_append, List.length_cons, List.length_nil] <;> omega
  · intro entry member
    rcases List.mem_append.mp member with other | own
    · refine tracks.filed entry (List.perm_middle.mem_iff.mpr ?_)
      exact List.mem_cons_of_mem _ other
    · exact filed entry own

theorem Tracks.update (tracks : engine.Tracks agenda) (now : UInt64) (world : World)
    (texts : Texts) : ∃ later, (engine.update now world texts).engine.Tracks later := by
  refine update_induction (motive := fun engine agenda _ run =>
    engine.Tracks agenda → ∃ later, run.engine.Tracks later) ?_ ?_ tracks.schedule world tracks
  · intro engine agenda world _ _ tracks
    exact ⟨agenda, tracks⟩
  · intro engine schedule before due action after world _ _ represents run next later further tracks
    exact further (tracks.settle represents now texts world engine.draws)

theorem Tracks.cancelFor (tracks : engine.Tracks agenda) (guid : Guid) :
    (engine.cancelFor guid).value.2.Tracks
      (agenda.filter fun entry => !entry.2.involves guid) := by
  refine ⟨cancelFor_represents tracks.schedule guid, ?_, ?_⟩
  · have removed := (tracks.schedule.cancelWhere (·.involves guid)).1
    have parts := List.length_eq_length_filter_add (l := agenda) fun entry => entry.2.involves guid
    rw [cancelFor_counter, removed, Agenda.cancelWhere, List.filter_map, List.length_map, tracks.counter]
    exact Nat.sub_eq_of_eq_add' parts
  · intro entry member
    exact tracks.filed entry (List.mem_filter.mp member).1

theorem Attainable.tracks (attainable : engine.Attainable) : ∃ agenda, engine.Tracks agenda := by
  induction attainable with
  | new draws => exact ⟨[], Schedule.represents_empty 64, rfl, by simp⟩
  | @fire engine table key commands roles now world _ ih =>
      obtain ⟨agenda, tracks⟩ := ih
      by_cases empty : commands = []
      · subst commands
        rw [fire_nil]
        exact ⟨agenda, tracks⟩
      · obtain ⟨due, next⟩ := exists_nextDue table key roles now world engine empty
        exact ⟨_, tracks.fire table key commands roles now world next⟩
  | update now world texts _ ih =>
      obtain ⟨agenda, tracks⟩ := ih
      exact tracks.update now world texts
  | cancelFor guid _ ih =>
      obtain ⟨agenda, tracks⟩ := ih
      exact ⟨_, tracks.cancelFor guid⟩

theorem Attainable.represents (attainable : engine.Attainable) :
    ∃ agenda, engine.schedule.Represents agenda :=
  attainable.tracks.imp fun _ tracks => tracks.schedule

end Engine

end WorldScripts
