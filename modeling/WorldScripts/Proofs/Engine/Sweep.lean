import WorldScripts.Proofs.Engine.Course
import WorldScripts.Proofs.Engine.Reachable
import WorldScripts.Proofs.StableOrder

/-!
What an update does, told without a schedule: the actions that are due when it begins are taken in
the stable order of the times at which they are due, and each of them goes as far as it can before
the next one is taken. Nothing is taken twice, since what is kept waits for a time to come.
-/

namespace WorldScripts

/-- The actions go one after the other, each in the world the one before it has left behind. -/
inductive Sweep (now : UInt64) (texts : Texts) : List Action → World → Draws → Passage → Prop where
  | done {world : World} {draws : Draws} : Sweep now texts [] world draws ⟨[], [], world, draws⟩
  | next {action : Action} {batch : List Action} {world : World} {draws : Draws}
      {first later : Passage} : Course now texts action action.rest world draws first →
      Sweep now texts batch first.world first.draws later →
      Sweep now texts (action :: batch) world draws
        { later with kept := first.kept ++ later.kept, turns := first.turns ++ later.turns }

theorem Sweep.unique {now : UInt64} {texts : Texts} {batch : List Action} {world : World}
    {draws : Draws} {a b : Passage} (left : Sweep now texts batch world draws a)
    (right : Sweep now texts batch world draws b) : a = b := by
  induction left generalizing b with
  | done =>
      cases right
      rfl
  | next course _ ih =>
      cases right with
      | next course' sweep' =>
          cases course.unique course'
          rw [ih sweep']

/-- What can be seen of an update: the actions that wait afterwards, those that were taken, the
commands that were executed, how many these were said to be, the world and the draws. -/
structure Tick where
  pending : List Action
  taken : List Action
  turns : List Turn
  ran : Nat
  world : World
  draws : Draws

namespace EngineRun

def turns (run : EngineRun) : List Turn :=
  run.runs.flatMap fun taken => taken.2.turns

def tick (run : EngineRun) : Tick where
  pending := run.engine.actions
  taken := run.runs.map Prod.fst
  turns := run.turns
  ran := run.ran
  world := run.world
  draws := run.engine.draws

end EngineRun

namespace Engine

/-- What an update has to come to: the actions that were not due stay as they were, and behind them
come those that are kept. -/
def Ticks (engine : Engine) (now : UInt64) (world : World) (texts : Texts) (tick : Tick) : Prop :=
  ∃ batch passage,
    StablySorted Action.dueTime
      (engine.actions.filter fun action => action.dueTime ≤ now.toNat) batch ∧
    Sweep now texts batch world engine.draws passage ∧
    tick = {
      pending := (engine.actions.filter fun action => now.toNat < action.dueTime) ++ passage.kept
      taken := batch
      turns := passage.turns
      ran := passage.turns.length
      world := passage.world
      draws := passage.draws }

theorem Ticks.unique {engine : Engine} {now : UInt64} {world : World} {texts : Texts} {a b : Tick}
    (left : engine.Ticks now world texts a) (right : engine.Ticks now world texts b) : a = b := by
  obtain ⟨batch, passage, sorted, sweep, rfl⟩ := left
  obtain ⟨batch', passage', sorted', sweep', rfl⟩ := right
  cases sorted.unique sorted'
  cases sweep.unique sweep'
  rfl

/-- The same, told with an agenda in the place of the engine. -/
structure Swept (now : UInt64) (texts : Texts) (agenda : Agenda Action) (world : World)
    (draws : Draws) (run : EngineRun) (batch kept : Agenda Action) : Prop where
  sorted : StablySorted (fun entry => entry.1.toNat)
    (agenda.filter fun entry => entry.1 ≤ now) batch
  taken : run.runs.map Prod.fst = batch.map Prod.snd
  sweep : Sweep now texts (batch.map Prod.snd) world draws
    ⟨kept.map Prod.snd, run.turns, run.world, run.engine.draws⟩
  ran : run.ran = run.turns.length
  keeps : run.engine.Keeps ((agenda.filter fun entry => now < entry.1) ++ kept)

variable {engine : Engine} {agenda : Agenda Action}

theorem left_late (action : Action) (now : UInt64) (texts : Texts) (world : World) (draws : Draws) :
    ∀ entry ∈ (action.run now texts world draws).ending.left, now < entry.1 := by
  intro entry member
  obtain ⟨due, waiting⟩ := entry
  exact Action.runRest_waits_later (Ending.mem_left.mp member)

theorem filter_due_of_late {now : UInt64} (late : ∀ entry ∈ agenda, now < entry.1) :
    (agenda.filter fun entry => entry.1 ≤ now) = [] := by
  refine List.filter_eq_nil_iff.mpr ?_
  intro entry member
  simpa using late entry member

theorem filter_later_of_late {now : UInt64} (late : ∀ entry ∈ agenda, now < entry.1) :
    (agenda.filter fun entry => now < entry.1) = agenda :=
  List.filter_eq_self.mpr fun entry member => decide_eq_true (late entry member)

theorem Keeps.swept (keeps : engine.Keeps agenda) (now : UInt64) (world : World) (texts : Texts) :
    ∃ batch kept, Swept now texts agenda world engine.draws (engine.update now world texts)
      batch kept := by
  refine keeps.update_induction (motive := fun engine agenda world run =>
    ∃ batch kept, Swept now texts agenda world engine.draws run batch kept) ?_ ?_ world
  · intro engine agenda world keeps late
    refine ⟨[], [], ?_, rfl, .done, rfl, ?_⟩
    · rw [filter_due_of_late late]
      exact ⟨List.Perm.refl [], List.Pairwise.nil, fun _ => rfl⟩
    · rw [filter_later_of_late late, List.append_nil]
      exact keeps
  · intro engine next before due action after world later keeps leads reached run _ draws _ further
    obtain ⟨batch, kept, swept⟩ := further
    have late := left_late action now texts world engine.draws
    -- What is left of the action waits, so that it belongs to what was not due.
    refine ⟨(due, action) :: batch, run.ending.left ++ kept, ?_, ?_, ?_, ?_, ?_⟩
    · have sorted := swept.sorted
      rw [List.filter_append, filter_due_of_late late, List.append_nil,
        List.filter_append] at sorted
      rw [List.filter_append, List.filter_cons_of_pos (by simpa using reached)]
      refine sorted.insert ?_ ?_
      · intro entry member
        exact UInt64.lt_iff_toNat_lt.mp (leads.before entry (List.mem_filter.mp member).1)
      · intro entry member
        exact UInt64.le_iff_toNat_le.mp (leads.after entry (List.mem_filter.mp member).1)
    · rw [List.map_cons, List.map_cons, swept.taken]
    · have course := Action.runRest_course now texts (keeps.timely (due, action) (by simp))
        action.rest world engine.draws
      have sweep := swept.sweep
      rw [draws] at sweep
      rw [List.map_append]
      exact Sweep.next course sweep
    · have one := Action.runRest_ran now texts action action.rest world engine.draws
      simp only [EngineRun.turns, List.flatMap_cons, List.length_append]
      rw [swept.ran, show run.ran = run.turns.length from one]
      rfl
    · have kept := swept.keeps
      rw [List.filter_append, filter_later_of_late late, List.filter_append,
        List.append_assoc] at kept
      rw [List.filter_append, List.filter_cons_of_neg (by simpa using reached),
        ← List.append_assoc, List.append_assoc]
      simpa using kept

theorem Keeps.ticks (keeps : engine.Keeps agenda) (now : UInt64) (world : World) (texts : Texts) :
    engine.Ticks now world texts (engine.update now world texts).tick := by
  obtain ⟨batch, kept, swept⟩ := keeps.swept now world texts
  have due : (engine.actions.filter fun action => action.dueTime ≤ now.toNat) =
      (agenda.filter fun entry => entry.1 ≤ now).map Prod.snd := by
    rw [keeps.actions, List.filter_map]
    refine congrArg _ (List.filter_congr ?_)
    intro entry member
    simp [keeps.dueTime member, UInt64.le_iff_toNat_le]
  have others : (engine.actions.filter fun action => now.toNat < action.dueTime) =
      (agenda.filter fun entry => now < entry.1).map Prod.snd := by
    rw [keeps.actions, List.filter_map]
    refine congrArg _ (List.filter_congr ?_)
    intro entry member
    simp [keeps.dueTime member, UInt64.lt_iff_toNat_lt]
  refine ⟨batch.map Prod.snd, _, ?_, swept.sweep, ?_⟩
  · rw [due]
    refine swept.sorted.map Prod.snd ?_
    intro entry member
    exact keeps.dueTime (List.mem_filter.mp member).1
  · simp only [EngineRun.tick, others, swept.taken, swept.ran, swept.keeps.actions,
      List.map_append]

/-- An update of an engine is one sweep over the actions that are due, and comes to nothing else. -/
theorem ticks_iff_update (reachable : engine.Reachable) (now : UInt64) (world : World)
    (texts : Texts) (tick : Tick) :
    engine.Ticks now world texts tick ↔ tick = (engine.update now world texts).tick := by
  obtain ⟨agenda, keeps⟩ := reachable.keeps
  have ticks := keeps.ticks now world texts
  constructor
  · intro other
    exact other.unique ticks
  · rintro rfl
    exact ticks

theorem threePending_ticks :
    threePending.Reachable ∧ (threePending.update 12 {} {}).tick.ran = 2 ∧
      (threePending.update 12 {} {}).tick.taken.map Action.id = [0, 2] ∧
      (threePending.update 12 {} {}).tick.pending.map Action.id = [1, 0, 2] ∧
      threePending.Ticks 12 {} {} (threePending.update 12 {} {}).tick :=
  ⟨threePending_reachable, by cbv, by cbv, by cbv,
    (ticks_iff_update threePending_reachable 12 {} {} _).mpr rfl⟩

end Engine

end WorldScripts
