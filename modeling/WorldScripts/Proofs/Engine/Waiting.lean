import Mathlib.Data.List.Basic
import WorldScripts.Engine
import WorldScripts.Proofs.Schedule.Refinement

/-!
What waits in an engine. Between calls the agenda of an engine lists every action that has been
fired and is not over, filed under the time at which its current command is due. Times are counted as
natural numbers here; scripts are fired early enough for that to make no difference.
-/

namespace WorldScripts

/-- No delay reaches past the last time there is when a script is fired by then, which is
`2 ^ 64 - 2 ^ 32`. -/
def Timely (start : UInt64) : Prop :=
  start ≤ 0xffffffff00000000

instance (start : UInt64) : Decidable (Timely start) :=
  inferInstanceAs (Decidable (start ≤ 0xffffffff00000000))

namespace World

def Present (world : World) (guid : Guid) : Prop :=
  ∃ entity, world.entity? guid = some entity ∧ entity.state ≠ .despawned

theorem holds_iff_present (world : World) (guid : Guid) :
    world.holds guid = true ↔ world.Present guid := by
  simp [World.holds, World.Present, Entity.inWorld, Option.any_eq_true]

end World

namespace Action

def dueAt (action : Action) (instruction : Instruction) : Nat :=
  action.startedAt.toNat + instruction.delay.toNat

def dueTime (action : Action) : Nat :=
  (action.current?.map action.dueAt).getD 0

/-- The source or the owner, without which the action does not go on. -/
def Needs (action : Action) (guid : Guid) : Prop :=
  action.roles.source = some guid ∨ action.owner = some guid

theorem toNat_dueOf {action : Action} (timely : Timely action.startedAt)
    (instruction : Instruction) : (action.dueOf instruction).toNat = action.dueAt instruction := by
  have start := UInt64.le_iff_toNat_le.mp timely
  have delay := instruction.delay.toNat_lt
  have last : (0xffffffff00000000 : UInt64).toNat = 0xffffffff00000000 := rfl
  -- Both parts are small enough for the sum not to wrap around.
  simp only [dueOf, dueAt, UInt64.toNat_add, UInt32.toNat_toUInt64]
  omega

theorem dueTime_of_nextDue? {action : Action} (timely : Timely action.startedAt) {due : UInt64}
    (next : action.nextDue? = some due) : action.dueTime = due.toNat := by
  obtain ⟨instruction, current, rfl⟩ := Option.map_eq_some_iff.mp next
  simp [dueTime, current, toNat_dueOf timely]

theorem involves_iff (action : Action) (guid : Guid) :
    action.involves guid = true ↔ action.Needs guid := by
  simp [involves, Needs]

theorem absentee?_eq_none {action : Action} {world : World} :
    action.absentee? world = none ↔ ∀ guid, action.Needs guid → world.Present guid := by
  simp only [absentee?, List.find?_eq_none, List.mem_append, Option.mem_toList, Needs,
    ← World.holds_iff_present, Bool.not_eq_true', Bool.not_eq_false]

theorem absentee?_eq_some {action : Action} {world : World} {gone : Guid}
    (found : action.absentee? world = some gone) :
    action.Needs gone ∧ ¬ world.Present gone := by
  have member := List.mem_of_find?_eq_some found
  have missing := List.find?_some found
  rw [List.mem_append, Option.mem_toList, Option.mem_toList] at member
  refine ⟨member, ?_⟩
  rw [← World.holds_iff_present]
  simpa using missing

-- What goes on waiting is the action itself with fewer commands left.
theorem runRest_waits {action waiting : Action} {now due : UInt64} {texts : Texts}
    {rest : List Instruction} {world : World} {draws : Draws}
    (ending : (action.runRest now texts rest world draws).ending = .waits due waiting) :
    waiting.nextDue? = some due ∧ ∃ left, waiting = { action with rest := left } := by
  induction rest generalizing world draws with
  | nil => simp [runRest] at ending
  | cons instruction rest ih =>
      simp only [runRest] at ending
      split at ending
      · cases ending
        exact ⟨rfl, _, rfl⟩
      · split at ending
        · cases ending
        · split at ending
          · cases ending
          · exact ih ending
          · exact ih ending

end Action

/-- What is left to wait, with the time it waits for. -/
def Ending.left : Ending → List (UInt64 × Action)
  | .waits due action => [(due, action)]
  | .finished | .abandoned _ | .terminated => []

theorem Ending.mem_left {ending : Ending} {due : UInt64} {action : Action} :
    (due, action) ∈ ending.left ↔ ending = .waits due action := by
  cases ending <;> simp [left, eq_comm]

namespace Engine

/-- The agenda of an engine between calls. -/
structure Keeps (engine : Engine) (agenda : Agenda Action) : Prop where
  schedule : engine.schedule.Represents agenda
  counter : engine.counter.count = agenda.length
  filed : ∀ entry ∈ agenda, entry.2.nextDue? = some entry.1
  timely : ∀ entry ∈ agenda, Timely entry.2.startedAt
  nodup : (agenda.map fun entry => entry.2.id).Nodup
  known : ∀ entry ∈ agenda, entry.2.id < engine.fired

theorem keeps_new (draws : Draws) : Keeps { draws } [] := by
  refine ⟨Schedule.represents_empty 64, rfl, ?_, ?_, List.nodup_nil, ?_⟩ <;> simp

section

variable {engine : Engine} {agenda : Agenda Action}

theorem Keeps.actions (keeps : engine.Keeps agenda) : engine.actions = agenda.map Prod.snd :=
  keeps.schedule.pending

theorem Keeps.pending (keeps : engine.Keeps agenda) : engine.pending = agenda.length :=
  keeps.schedule.size

theorem Keeps.dueTime (keeps : engine.Keeps agenda) {entry : UInt64 × Action}
    (member : entry ∈ agenda) : entry.2.dueTime = entry.1.toNat :=
  Action.dueTime_of_nextDue? (keeps.timely entry member) (keeps.filed entry member)

theorem Keeps.append (keeps : engine.Keeps agenda) {joined : Engine} {due : UInt64}
    {action : Action} (schedule : joined.schedule.Represents (agenda ++ [(due, action)]))
    (counter : joined.counter.count = agenda.length + 1) (filed : action.nextDue? = some due)
    (timely : Timely action.startedAt) (fresh : action.id ∉ agenda.map fun entry => entry.2.id)
    (grown : engine.fired ≤ joined.fired) (known : action.id < joined.fired) :
    joined.Keeps (agenda ++ [(due, action)]) := by
  constructor
  · exact schedule
  · simp [counter]
  · intro entry member
    rcases List.mem_append.mp member with before | last
    · exact keeps.filed entry before
    · rw [List.mem_singleton.mp last]
      exact filed
  · intro entry member
    rcases List.mem_append.mp member with before | last
    · exact keeps.timely entry before
    · rw [List.mem_singleton.mp last]
      exact timely
  · rw [List.map_append]
    exact List.perm_append_comm.nodup_iff.mp (List.nodup_cons.mpr ⟨fresh, keeps.nodup⟩)
  · intro entry member
    rcases List.mem_append.mp member with before | last
    · exact Nat.lt_of_lt_of_le (keeps.known entry before) grown
    · rw [List.mem_singleton.mp last]
      exact known

/-! Firing. -/

variable (table : ScriptTable) (key : UInt32) (roles : Roles) (now : UInt64) (world : World)

theorem fire_nil (engine : Engine) :
    (engine.fire table key [] roles now world).value = (false, engine) := by
  simp [Engine.fire, Engine.prepare, Action.order, Action.nextDue?, Action.current?]

theorem exists_nextDue (engine : Engine) {commands : List Instruction} (filled : commands ≠ []) :
    ∃ due, (engine.prepare table key commands roles now world).nextDue? = some due := by
  cases sorted : Action.order commands with
  | nil =>
      have same := List.mergeSort_perm commands fun a b => decide (a.delay ≤ b.delay)
      rw [show commands.mergeSort _ = [] from sorted] at same
      exact absurd same.symm.eq_nil filled
  | cons first rest =>
      refine ⟨(engine.prepare table key commands roles now world).dueOf first, ?_⟩
      simp [Engine.prepare, Action.nextDue?, Action.current?, sorted]

theorem fire_value (engine : Engine) {commands : List Instruction} {due : UInt64}
    (next : (engine.prepare table key commands roles now world).nextDue? = some due) :
    (engine.fire table key commands roles now world).value =
      (true,
        { engine with
          schedule :=
            engine.schedule.add due (engine.prepare table key commands roles now world)
          counter := engine.counter.increase
          fired := engine.fired + 1 }) := by
  simp [Engine.fire, next]

theorem Keeps.fire (keeps : engine.Keeps agenda) (timely : Timely now)
    {commands : List Instruction} {due : UInt64}
    (next : (engine.prepare table key commands roles now world).nextDue? = some due) :
    (engine.fire table key commands roles now world).value.2.Keeps
      (agenda ++ [(due, engine.prepare table key commands roles now world)]) := by
  rw [fire_value table key roles now world engine next]
  refine keeps.append (keeps.schedule.add due _) ?_ next timely ?_ (Nat.le_succ _)
    (Nat.lt_succ_self _)
  · simp [ScheduledScriptCounter.increase, keeps.counter]
  · -- Whoever waits was fired earlier and has a smaller number.
    intro member
    obtain ⟨entry, inside, same⟩ := List.mem_map.mp member
    have known := keeps.known entry inside
    simp only [Engine.prepare] at same
    omega

/-! Cancelling. -/

theorem Keeps.filter (keeps : engine.Keeps agenda) (kept : UInt64 × Action → Bool)
    {schedule : Schedule Action} (represents : schedule.Represents (agenda.filter kept)) {n : Nat}
    (gone : (agenda.filter kept).length + n = agenda.length) :
    Keeps { engine with schedule, counter := engine.counter.decreaseBy n } (agenda.filter kept) := by
  have inside {entry : UInt64 × Action} (member : entry ∈ agenda.filter kept) : entry ∈ agenda :=
    (List.mem_filter.mp member).1
  refine ⟨represents, ?_, fun entry member => keeps.filed entry (inside member),
    fun entry member => keeps.timely entry (inside member), ?_,
    fun entry member => keeps.known entry (inside member)⟩
  · simp only [ScheduledScriptCounter.decreaseBy, keeps.counter]
    omega
  · exact keeps.nodup.sublist (List.filter_sublist.map _)

theorem Keeps.cancelFor_value (keeps : engine.Keeps agenda) (guid : Guid) :
    (engine.cancelFor guid).value =
      ((agenda.filter fun entry => entry.2.involves guid).length,
        { engine with
          schedule := (engine.schedule.cancelWhere (·.involves guid)).2
          counter := engine.counter.decreaseBy
            (agenda.filter fun entry => entry.2.involves guid).length }) := by
  have removed : (engine.schedule.cancelWhere (·.involves guid)).1.length =
      (agenda.filter fun entry => entry.2.involves guid).length := by
    rw [(keeps.schedule.cancelWhere _).1, Agenda.cancelWhere, List.filter_map, List.length_map]
    rfl
  simp only [Engine.cancelFor, removed]
  split
  · rename_i none
    simp [none, ScheduledScriptCounter.decreaseBy]
  · rfl

theorem Keeps.cancelFor (keeps : engine.Keeps agenda) (guid : Guid) :
    (engine.cancelFor guid).value.2.Keeps
      (agenda.filter fun entry => !entry.2.involves guid) := by
  have parts := List.length_eq_length_filter_add (l := agenda) fun entry => entry.2.involves guid
  rw [keeps.cancelFor_value]
  refine keeps.filter _ (keeps.schedule.cancelWhere _).2 ?_
  rw [parts]
  exact Nat.add_comm _ _

/-! Taking one action. -/

variable {before after : Agenda Action} {due : UInt64} {action : Action}

theorem Keeps.settle (keeps : engine.Keeps (before ++ (due, action) :: after))
    {schedule : Schedule Action} (represents : schedule.Represents (before ++ after))
    (texts : Texts) (draws : Draws) :
    (Engine.settle { engine with schedule } (action.run now texts world draws)).Keeps
      (before ++ after ++ (action.run now texts world draws).ending.left) := by
  have self : (due, action) ∈ before ++ (due, action) :: after := by simp
  have others {entry : UInt64 × Action} (member : entry ∈ before ++ after) :
      entry ∈ before ++ (due, action) :: after :=
    List.perm_middle.mem_iff.mpr (List.mem_cons_of_mem _ member)
  have counter := keeps.counter
  have nodup := ((List.perm_middle.map fun entry : UInt64 × Action => entry.2.id).nodup_iff).mp
    keeps.nodup
  rw [List.map_cons, List.nodup_cons] at nodup
  have without : Keeps
      { engine with
        schedule
        counter := engine.counter.decrease
        draws := (action.run now texts world draws).draws }
      (before ++ after) := by
    refine ⟨represents, ?_, fun entry member => keeps.filed entry (others member),
      fun entry member => keeps.timely entry (others member), nodup.2,
      fun entry member => keeps.known entry (others member)⟩
    simp only [ScheduledScriptCounter.decrease, ScheduledScriptCounter.decreaseBy, counter,
      List.length_append, List.length_cons]
    omega
  unfold Engine.settle
  -- Either nothing is left of the action, or what is left is put in again under its number.
  cases ending : (action.run now texts world draws).ending with
  | finished => simpa [Ending.left] using without
  | abandoned gone => simpa [Ending.left] using without
  | terminated => simpa [Ending.left] using without
  | waits later waiting =>
      obtain ⟨filed, left, rfl⟩ := Action.runRest_waits ending
      refine without.append (represents.add later _) ?_ filed (keeps.timely (due, action) self)
        nodup.1 (Nat.le_refl _) (keeps.known (due, action) self)
      simp only [counter, List.length_append, List.length_cons]
      omega

end

end Engine

end WorldScripts
