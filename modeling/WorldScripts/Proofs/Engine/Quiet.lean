import Mathlib.Algebra.GroupWithZero.Nat
import WorldScripts.Proofs.Engine.Attainable
import WorldScripts.Proofs.Engine.Sweep

/-!
How an update comes to an end. It is gone through here in the smallest of steps: an action is taken, one
of its commands is executed, the action is put back or dropped. There are only so many steps, and after
the last one nothing is due before some later time. So another update at that time changes nothing, and
an update changes something just when something is due.
-/

namespace WorldScripts

structure Underway where
  engine : Engine
  world : World
  /-- The action that was taken and is not done with yet. -/
  current : Option Action := none
  ran : Nat := 0

namespace Underway

def drop (state : Underway) : Underway :=
  { state with
    engine := { state.engine with counter := state.engine.counter.decrease }
    current := none }

def putBack (state : Underway) (due : UInt64) (action : Action) : Underway :=
  { state with
    engine := { state.engine with schedule := state.engine.schedule.add due action }
    current := none }

def execute (state : Underway) (action : Action) (instruction : Instruction)
    (rest : List Instruction) (texts : Texts) : Underway :=
  let (done, draws) := instruction.execute action.roles state.world texts state.engine.draws
  let later : Underway := {
    engine := { state.engine with draws }
    world := done.world
    current := some { action with rest }
    ran := state.ran + 1 }
  match done.outcome with
  | .ok .terminate => later.drop
  | .ok .proceed | .error _ => later

/-- One step further, unless there is nothing left to do. -/
def step? (state : Underway) (now : UInt64) (texts : Texts) : Option Underway :=
  match state.current with
  | none =>
      match state.engine.schedule.popDue now with
      | (none, _) => none
      | (some (_, action), schedule) =>
          some { state with engine := { state.engine with schedule }, current := some action }
  | some action =>
      match action.rest with
      | [] => some state.drop
      | instruction :: rest =>
          if now < action.dueOf instruction then
            some (state.putBack (action.dueOf instruction) action)
          else if (action.absentee? state.world).isSome then some state.drop
          else some (state.execute action instruction rest texts)

/-- So many steps lead from one state to another. -/
inductive Steps (now : UInt64) (texts : Texts) : Nat → Underway → Underway → Prop where
  | stay {state : Underway} : Steps now texts 0 state state
  | step {count : Nat} {state next last : Underway} : state.step? now texts = some next →
      Steps now texts count next last → Steps now texts (count + 1) state last

section

variable {now : UInt64} {texts : Texts} {first middle last : Underway} {count further : Nat}

theorem Steps.one (taken : first.step? now texts = some last) : Steps now texts 1 first last :=
  .step taken .stay

theorem Steps.append (steps : Steps now texts count first middle)
    (others : Steps now texts further middle last) :
    Steps now texts (count + further) first last := by
  induction steps with
  | stay => rwa [Nat.zero_add]
  | step taken _ ih =>
      rw [Nat.succ_add]
      exact .step taken (ih others)

end

end Underway

open Underway (Steps)

theorem Engine.settle_after (engine : Engine) (run : ActionRun) (turn : Turn)
    (lines : List LogLine) (draws : Draws) :
    settle { engine with draws } run = engine.settle (run.after turn lines) := by
  unfold settle
  cases ending : run.ending <;> simp [ActionRun.after, ending]

namespace Action

variable (action : Action) {now : UInt64} {texts : Texts} {instruction : Instruction}
variable {rest : List Instruction} {engine : Engine} {world : World} {draws : Draws}
variable {done : Execution} {ran : Nat}

theorem step?_execute (reached : ¬ now < action.dueOf instruction)
    (present : action.absentee? world = none)
    (executed : instruction.execute action.roles world texts engine.draws = (done, draws)) :
    Underway.step? ⟨engine, world, some { action with rest := instruction :: rest }, ran⟩ now texts =
      some (
        let later : Underway := ⟨{ engine with draws }, done.world, some { action with rest }, ran + 1⟩
        if done.outcome = .ok .terminate then later.drop else later) := by
  have nobody : ¬ (action.absentee? world).isSome = true := by
    rw [present]
    exact Bool.false_ne_true
  refine (if_neg reached).trans ((if_neg nobody).trans (congrArg some ?_))
  simp only [Underway.execute, executed]
  cases outcome : done.outcome with
  | error error => rfl
  | ok outcome' => cases outcome' <;> rfl

variable (now texts engine world ran)

theorem runRest_steps (rest : List Instruction) :
    let run := action.runRest now texts rest world engine.draws
    ∃ count ≤ rest.length + 1,
      Steps now texts count ⟨engine, world, some { action with rest }, ran⟩
        ⟨engine.settle run, run.world, none, ran + run.ran⟩ := by
  induction rest generalizing engine world ran with
  | nil => exact ⟨1, Nat.le_refl 1, .one rfl⟩
  | cons instruction rest ih =>
      have once : 1 ≤ (instruction :: rest).length + 1 := Nat.le_add_left 1 _
      rcases action.command_cases now texts instruction world engine.draws with early | ⟨reached,
        ⟨gone, absent⟩ | ⟨present, done, left, executed, terminate | proceed⟩⟩
      · rw [action.runRest_early early]
        exact ⟨1, once, .one (if_pos early)⟩
      · rw [action.runRest_absent reached absent]
        refine ⟨1, once, .one ((if_neg reached).trans (if_pos ?_))⟩
        exact congrArg Option.isSome absent
      · rw [action.runRest_terminate reached present executed terminate]
        refine ⟨1, once, .one ((action.step?_execute reached present executed).trans ?_)⟩
        exact congrArg some (if_pos terminate)
      · have taken : Underway.step?
            ⟨engine, world, some { action with rest := instruction :: rest }, ran⟩ now texts =
            some ⟨{ engine with draws := left }, done.world, some { action with rest }, ran + 1⟩ :=
          (action.step?_execute reached present executed).trans (congrArg some (if_neg proceed))
        rw [action.runRest_proceed reached present executed proceed]
        obtain ⟨count, few, steps⟩ := ih { engine with draws := left } done.world (ran + 1)
        rw [Engine.settle_after, Nat.add_assoc, Nat.add_comm 1] at steps
        exact ⟨count + 1, Nat.succ_le_succ few, .step taken steps⟩

end Action

/-- The most steps that an update may need for the actions that are due. -/
def Agenda.stepLimit (agenda : Agenda Action) (now : UInt64) : Nat :=
  ((agenda.filter fun entry => entry.1 ≤ now).map fun entry => entry.2.remaining + 2).sum

namespace Engine

def Quiet (engine : Engine) (now : UInt64) : Prop :=
  ∀ due, engine.nextDue? = some due → now < due

def dueActions (engine : Engine) (now : UInt64) : List Action :=
  engine.actions.filter fun action => action.nextDue?.any (· ≤ now)

variable {engine : Engine} {agenda : Agenda Action}

theorem quiet_iff (represents : engine.schedule.Represents agenda) (now : UInt64) :
    engine.Quiet now ↔ ∀ entry ∈ agenda, now < entry.1 := by
  unfold Quiet nextDue?
  rw [represents.nextDue?]
  by_cases empty : agenda = []
  · subst agenda
    simp [Agenda.nextDue?]
  · obtain ⟨before, first, after, rfl, leads⟩ := Agenda.exists_leads empty
    rw [leads.nextDue?]
    constructor
    · intro quiet entry member
      exact UInt64.lt_of_lt_of_le (quiet first.1 rfl) (leads.least entry member)
    · rintro late _ ⟨⟩
      exact late first (by simp)

theorem update_of_quiet (represents : engine.schedule.Represents agenda) {now : UInt64}
    (quiet : engine.Quiet now) (world : World) (texts : Texts) :
    engine.update now world texts = { engine, world } :=
  update_idle (represents.popDue_late ((quiet_iff represents now).mp quiet))

theorem update_late (represents : engine.schedule.Represents agenda) (now : UInt64) (world : World)
    (texts : Texts) :
    ∃ later, (engine.update now world texts).engine.schedule.Represents later ∧
      ∀ entry ∈ later, now < entry.1 := by
  refine update_induction (motive := fun _ _ _ run =>
    ∃ later, run.engine.schedule.Represents later ∧ ∀ entry ∈ later, now < entry.1)
    ?_ ?_ represents world
  · intro engine agenda world represents late
    exact ⟨agenda, represents, late⟩
  · intro engine schedule before due action after world _ _ _ run next later further
    exact further

-- An action that is due adds its steps to the limit, and what is left of it adds none.
theorem stepLimit_take {before after : Agenda Action} {due now : UInt64} {action : Action}
    (reached : due ≤ now) (texts : Texts) (world : World) (draws : Draws) :
    Agenda.stepLimit (before ++ (due, action) :: after) now =
      action.remaining + 2 + Agenda.stepLimit
        (before ++ after ++ (action.run now texts world draws).ending.left) now := by
  have late := filter_due_of_late (left_late action now texts world draws)
  have first : ((due, action) :: after).filter (fun entry => entry.1 ≤ now) =
      (due, action) :: after.filter fun entry => entry.1 ≤ now :=
    List.filter_cons_of_pos (decide_eq_true reached)
  simp only [Agenda.stepLimit, List.filter_append, late, List.append_nil, first, List.map_append,
    List.map_cons, List.sum_append, List.sum_cons]
  omega

theorem update_steps (represents : engine.schedule.Represents agenda) (now : UInt64) (world : World)
    (texts : Texts) :
    let run := engine.update now world texts
    ∃ count ≤ agenda.stepLimit now,
      Steps now texts count { engine, world } ⟨run.engine, run.world, none, run.ran⟩ := by
  -- The commands executed so far are counted on from any number.
  suffices counted : ∀ ran, ∃ count ≤ agenda.stepLimit now, Steps now texts count
      ⟨engine, world, none, ran⟩
      ⟨(engine.update now world texts).engine, (engine.update now world texts).world, none,
        ran + (engine.update now world texts).ran⟩ by
    obtain ⟨count, few, steps⟩ := counted 0
    rw [Nat.zero_add] at steps
    exact ⟨count, few, steps⟩
  refine update_induction_popDue (motive := fun engine agenda world run =>
    ∀ ran, ∃ count ≤ agenda.stepLimit now,
      Steps now texts count ⟨engine, world, none, ran⟩ ⟨run.engine, run.world, none, ran + run.ran⟩)
    ?_ ?_ represents world
  · intro engine agenda world _ _ ran
    exact ⟨0, Nat.zero_le _, .stay⟩
  · intro engine schedule before due action after world popped _ reached _ run next later further ran
    have taken : Underway.step? ⟨engine, world, none, ran⟩ now texts =
        some ⟨{ engine with schedule }, world, some action, ran⟩ := by
      simp only [Underway.step?, popped]
    obtain ⟨count, few, steps⟩ :=
      action.runRest_steps now texts { engine with schedule } world ran action.rest
    obtain ⟨others, bounded, rest⟩ := further (ran + run.ran)
    have limit : Agenda.stepLimit (before ++ (due, action) :: after) now = action.rest.length + 2 +
        Agenda.stepLimit (before ++ after ++ run.ending.left) now :=
      stepLimit_take reached texts world engine.draws
    refine ⟨1 + (count + others), ?_, (Steps.one taken).append (steps.append ?_)⟩
    · omega
    · rw [Nat.add_assoc] at rest
      exact rest

theorem Tracks.dueActions (tracks : engine.Tracks agenda) (now : UInt64) :
    engine.dueActions now = (agenda.filter fun entry => entry.1 ≤ now).map Prod.snd := by
  rw [Engine.dueActions, Engine.actions, tracks.schedule.pending, List.filter_map]
  refine congrArg _ (List.filter_congr fun entry member => ?_)
  rw [Function.comp_apply, tracks.filed entry member, Option.any_some]

/-- An update ends after no more steps than the actions that are due have commands, and two more for each
of them. From then on nothing is due until a later time: another update, at that time or before, executes
nothing and changes nothing, whatever has become of the world. So an update changes something just when
something was due before it, and then it is something else that is due next. -/
theorem update_quiets (attainable : engine.Attainable) (now : UInt64) (world : World)
    (texts : Texts) :
    let run := engine.update now world texts
    (∃ count ≤ ((engine.dueActions now).map fun action => action.remaining + 2).sum,
      ∃ last, Steps now texts count { engine, world } last ∧ last.step? now texts = none ∧
        last = { engine := run.engine, world := run.world, ran := run.ran }) ∧
      run.engine.Quiet now ∧
      (∀ earlier ≤ now, ∀ other others,
        run.engine.update earlier other others = { engine := run.engine, world := other }) ∧
      (run = { engine, world } ↔ engine.Quiet now) ∧
      (run.engine.nextDue? = engine.nextDue? ↔ engine.Quiet now) := by
  intro run
  obtain ⟨agenda, tracks⟩ := attainable.tracks
  obtain ⟨later, represents, late⟩ := update_late tracks.schedule now world texts
  have quiet : run.engine.Quiet now := (quiet_iff represents now).mpr late
  refine ⟨?_, quiet, ?_, ?_, ?_⟩
  · obtain ⟨count, few, steps⟩ := update_steps tracks.schedule now world texts
    rw [tracks.dueActions, List.map_map]
    refine ⟨count, few, _, steps, ?_, rfl⟩
    simp only [Underway.step?, represents.popDue_late late]
  · intro earlier before other others
    refine update_of_quiet represents ?_ other others
    exact fun due next => UInt64.lt_of_le_of_lt before (quiet due next)
  · constructor
    · intro same
      rwa [same] at quiet
    · intro idle
      exact update_of_quiet tracks.schedule idle world texts
  · constructor
    · intro same due next
      exact quiet due (same.trans next)
    · intro idle
      exact congrArg (fun run => run.engine.nextDue?)
        (update_of_quiet tracks.schedule idle world texts)

theorem threePending_update_quiets :
    let run := threePending.update 12 {} {}
    let elsewhere := ({} : World).spawn .creature 20 {}
    threePending.Attainable ∧ threePending.nextDue? = some 12 ∧
      threePending.update 11 {} {} = { engine := threePending, world := {} } ∧
      run.ran = 2 ∧ run.engine.nextDue? = some 15 ∧ run.engine.Quiet 12 ∧
      run.engine.update 11 elsewhere {} = { engine := run.engine, world := elsewhere } := by
  have attainable : threePending.Attainable :=
    .fire _ _ _ _ _ _ (.fire _ _ _ _ _ _ (.fire _ _ _ _ _ _ (.new _)))
  have first : threePending.nextDue? = some 12 := by cbv
  have ran : (threePending.update 12 {} {}).ran = 2 := by cbv
  have next : (threePending.update 12 {} {}).engine.nextDue? = some 15 := by cbv
  obtain ⟨_, _, _, idle, _⟩ := update_quiets attainable 11 {} {}
  obtain ⟨_, quiet, again, _⟩ := update_quiets attainable 12 {} {}
  refine ⟨attainable, first, idle.mpr ?_, ran, next, quiet, again 11 (by decide) _ {}⟩
  rintro due same
  cases first.symm.trans same
  decide

end Engine

end WorldScripts
