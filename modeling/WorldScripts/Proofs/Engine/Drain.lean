import WorldScripts.Proofs.Engine.Waiting

/-!
How an update empties an engine. Each step takes the first action that is due, runs it, and puts
what is left of it behind all others; the steps end when nothing is due any more. What holds of an
update is shown for these two cases.
-/

namespace WorldScripts.Engine

variable {engine : Engine} {agenda : Agenda Action} {now : UInt64} {texts : Texts}

theorem update_idle {world : World}
    (nothing : engine.schedule.popDue now = (none, engine.schedule)) :
    engine.update now world texts = { engine, world } := by
  rw [Engine.update]
  split
  · rename_i schedule taken
    rw [nothing] at taken
    cases taken
    rfl
  · rename_i taken
    rw [nothing] at taken
    cases taken

theorem update_take {world : World} {due : UInt64} {action : Action} {schedule : Schedule Action}
    (first : engine.schedule.popDue now = (some (due, action), schedule)) :
    engine.update now world texts =
      let run := action.run now texts world engine.draws
      let later := (Engine.settle { engine with schedule } run).update now run.world texts
      { later with
        ran := run.ran + later.ran
        runs := (action, run) :: later.runs
        log := run.log ++ later.log } := by
  rw [Engine.update]
  split
  · rename_i taken
    rw [first] at taken
    cases taken
  · rename_i taken
    rw [first] at taken
    cases taken
    rfl

theorem settle_draws (engine : Engine) (run : ActionRun) :
    (engine.settle run).draws = run.draws := by
  unfold Engine.settle
  split <;> rfl

theorem settle_fired (engine : Engine) (run : ActionRun) :
    (engine.settle run).fired = engine.fired := by
  unfold Engine.settle
  split <;> rfl

theorem settle_represents (represents : engine.schedule.Represents agenda) (run : ActionRun) :
    (engine.settle run).schedule.Represents (agenda ++ run.ending.left) := by
  unfold Engine.settle
  cases run.ending with
  | waits due action => exact represents.add due action
  | finished => simpa [Ending.left] using represents
  | abandoned gone => simpa [Ending.left] using represents
  | terminated => simpa [Ending.left] using represents

/-- What holds when nothing is due, and holds of taking one action whenever it holds of going on
afterwards, holds of every update. Here it is known, too, from which schedule the action was taken. -/
theorem update_induction_popDue {motive : Engine → Agenda Action → World → EngineRun → Prop}
    (idle : ∀ engine agenda world, engine.schedule.Represents agenda →
      (∀ entry ∈ agenda, now < entry.1) → motive engine agenda world { engine, world })
    (take : ∀ (engine : Engine) schedule before due action after world,
      engine.schedule.popDue now = (some (due, action), schedule) →
      Agenda.Leads before (due, action) after → due ≤ now →
      schedule.Represents (before ++ after) →
      let run := action.run now texts world engine.draws
      let next := settle { engine with schedule } run
      let later := next.update now run.world texts
      motive next (before ++ after ++ run.ending.left) run.world later →
      motive engine (before ++ (due, action) :: after) world
        { later with
          ran := run.ran + later.ran
          runs := (action, run) :: later.runs
          log := run.log ++ later.log })
    (represents : engine.schedule.Represents agenda) (world : World) :
    motive engine agenda world (engine.update now world texts) := by
  -- The marks that are due become fewer, as they do in the update itself.
  induction marks : engine.schedule.dueMarks now using Nat.strongRecOn
    generalizing engine agenda world with
  | ind marks ih =>
      by_cases late : ∀ entry ∈ agenda, now < entry.1
      · rw [update_idle (represents.popDue_late late)]
        exact idle engine agenda world represents late
      · have filled : agenda ≠ [] := by
          rintro rfl
          exact late (by simp)
        obtain ⟨before, ⟨due, action⟩, after, rfl, leads⟩ := Agenda.exists_leads filled
        have reached : due ≤ now := by
          refine UInt64.not_lt.mp fun early => late fun entry member => ?_
          exact UInt64.lt_of_lt_of_le early (leads.least entry member)
        obtain ⟨schedule, first, represents⟩ := represents.popDue_leads leads reached
        rw [update_take first]
        refine take engine schedule before due action after world first leads reached represents
          (ih _ ?_ (settle_represents represents _) _ rfl)
        rw [dueMarks_settle, ← marks]
        exact Schedule.dueMarks_popDue_lt first

-- The same, of whatever schedule is left when the action has been taken.
theorem update_induction {motive : Engine → Agenda Action → World → EngineRun → Prop}
    (idle : ∀ engine agenda world, engine.schedule.Represents agenda →
      (∀ entry ∈ agenda, now < entry.1) → motive engine agenda world { engine, world })
    (take : ∀ (engine : Engine) schedule before due action after world,
      Agenda.Leads before (due, action) after → due ≤ now →
      schedule.Represents (before ++ after) →
      let run := action.run now texts world engine.draws
      let next := settle { engine with schedule } run
      let later := next.update now run.world texts
      motive next (before ++ after ++ run.ending.left) run.world later →
      motive engine (before ++ (due, action) :: after) world
        { later with
          ran := run.ran + later.ran
          runs := (action, run) :: later.runs
          log := run.log ++ later.log })
    (represents : engine.schedule.Represents agenda) (world : World) :
    motive engine agenda world (engine.update now world texts) :=
  update_induction_popDue idle
    (fun engine schedule before due action after world _ =>
      take engine schedule before due action after world)
    represents world

theorem Keeps.update_induction {motive : Engine → Agenda Action → World → EngineRun → Prop}
    (idle : ∀ engine agenda world, Keeps engine agenda → (∀ entry ∈ agenda, now < entry.1) →
      motive engine agenda world { engine, world })
    (take : ∀ engine next before due action after world later,
      Keeps engine (before ++ (due, action) :: after) →
      Agenda.Leads before (due, action) after → due ≤ now →
      let run := action.run now texts world engine.draws
      Keeps next (before ++ after ++ run.ending.left) → next.draws = run.draws →
      next.fired = engine.fired →
      motive next (before ++ after ++ run.ending.left) run.world later →
      motive engine (before ++ (due, action) :: after) world
        { later with
          ran := run.ran + later.ran
          runs := (action, run) :: later.runs
          log := run.log ++ later.log })
    (keeps : engine.Keeps agenda) (world : World) :
    motive engine agenda world (engine.update now world texts) := by
  refine Engine.update_induction (motive := fun engine agenda world run =>
    Keeps engine agenda → motive engine agenda world run) ?_ ?_ keeps.schedule world keeps
  · intro engine agenda world _ late keeps
    exact idle engine agenda world keeps late
  · intro engine schedule before due action after world leads reached represents run next later
      further keeps
    have settled := keeps.settle now world represents texts engine.draws
    exact take engine next before due action after world later keeps leads reached settled
      (settle_draws _ _) (settle_fired _ _) (further settled)

end WorldScripts.Engine
