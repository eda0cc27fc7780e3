import WorldScripts.Proofs.Engine.Attainable
import WorldScripts.Proofs.Engine.Sweep
import WorldScripts.Proofs.World.Freshness

/-!
Cancelling for an entity that is gone. The actions of such an entity come to nothing anyway: when they
are due they are abandoned, since no other action can bring the entity back. So it makes no difference
to anybody else whether they are cancelled first. Two updates are compared, one of an engine that has
been rid of these actions and one of an engine that has not; the second takes more actions, and the
two are in line with each other between any two of those that both take.
-/

namespace WorldScripts

theorem World.Gone.not_present {world : World} {guid : Guid} (gone : world.Gone guid) :
    ¬ world.Present guid := by
  rintro ⟨entity, found, _⟩
  rw [gone.absent] at found
  cases found

namespace Action

variable {action : Action} {guid : Guid} {now : UInt64} {texts : Texts} {world : World}
variable {draws : Draws}

theorem involves_left (action : Action) (now : UInt64) (texts : Texts) (world : World)
    (draws : Draws) :
    ∀ entry ∈ (action.run now texts world draws).ending.left,
      entry.2.involves guid = action.involves guid := by
  rintro ⟨due, waiting⟩ member
  obtain ⟨_, left, rfl⟩ := runRest_waits (Ending.mem_left.mp member)
  rfl

theorem run_of_missing (needs : action.Needs guid) (missing : ¬ world.Present guid)
    (now : UInt64) (texts : Texts) (draws : Draws) :
    let run := action.run now texts world draws
    run.ran = 0 ∧ run.turns = [] ∧ run.world = world ∧ run.draws = draws := by
  have absent : action.absentee? world ≠ none :=
    fun none => missing (absentee?_eq_none.mp none guid needs)
  unfold Action.run
  cases action.rest with
  | nil => exact ⟨rfl, rfl, rfl, rfl⟩
  | cons instruction rest =>
      simp only [runRest]
      split
      · exact ⟨rfl, rfl, rfl, rfl⟩
      · split
        · exact ⟨rfl, rfl, rfl, rfl⟩
        · rename_i present
          exact absurd present absent

end Action

namespace Engine

def spares (guid : Guid) (entry : UInt64 × Action) : Bool :=
  !entry.2.involves guid

/-- Two updates that differ in nothing but the actions of an entity. -/
structure Agree (guid : Guid) (eager lazy : EngineRun) : Prop where
  ran : eager.ran = lazy.ran
  world : eager.world = lazy.world
  draws : eager.engine.draws = lazy.engine.draws
  turns : eager.turns = lazy.turns
  schedules : ∃ agenda, lazy.engine.schedule.Represents agenda ∧
    eager.engine.schedule.Represents (agenda.filter (spares guid))
  silent : ∀ turn ∈ lazy.turns, ¬ turn.action.Needs guid

variable {engine twin next : Engine} {agenda before after : Agenda Action} {guid : Guid}
variable {due now : UInt64} {action : Action} {texts : Texts} {world : World}

theorem agree_idle (represents : engine.schedule.Represents agenda)
    (twinned : twin.schedule.Represents (agenda.filter (spares guid)))
    (draws : twin.draws = engine.draws) (late : ∀ entry ∈ agenda, now < entry.1) :
    Agree guid (twin.update now world texts) { engine, world } := by
  have idle : twin.update now world texts = { engine := twin, world } :=
    update_idle (twinned.popDue_late fun entry member => late entry (List.mem_filter.mp member).1)
  rw [idle]
  exact ⟨rfl, rfl, draws, rfl, ⟨agenda, represents, twinned⟩, by simp [EngineRun.turns]⟩

theorem filter_left_of_involves (involved : action.involves guid = true) (draws : Draws) :
    (action.run now texts world draws).ending.left.filter (spares guid) = [] := by
  refine List.filter_eq_nil_iff.mpr fun entry member => ?_
  simp [spares, action.involves_left now texts world draws entry member, involved]

theorem filter_left_of_not_involves (other : action.involves guid = false) (draws : Draws) :
    (action.run now texts world draws).ending.left.filter (spares guid) =
      (action.run now texts world draws).ending.left := by
  refine List.filter_eq_self.mpr fun entry member => ?_
  simp [spares, action.involves_left now texts world draws entry member, other]

section

variable {eager later : EngineRun} {run : ActionRun}

theorem Agree.skip (agree : Agree guid eager later) (action : Action) (ran : run.ran = 0)
    (turns : run.turns = []) :
    Agree guid eager
      { later with
        ran := run.ran + later.ran
        runs := (action, run) :: later.runs
        log := run.log ++ later.log } := by
  refine ⟨?_, agree.world, agree.draws, ?_, agree.schedules, ?_⟩
  · rw [agree.ran, ran, Nat.zero_add]
  · show eager.turns = run.turns ++ later.turns
    rw [turns, agree.turns, List.nil_append]
  · show ∀ turn ∈ run.turns ++ later.turns, _
    rw [turns]
    exact agree.silent

theorem Agree.take (agree : Agree guid eager later) (action : Action)
    (others : ∀ turn ∈ run.turns, ¬ turn.action.Needs guid) :
    Agree guid
      { eager with
        ran := run.ran + eager.ran
        runs := (action, run) :: eager.runs
        log := run.log ++ eager.log }
      { later with
        ran := run.ran + later.ran
        runs := (action, run) :: later.runs
        log := run.log ++ later.log } := by
  refine ⟨?_, agree.world, agree.draws, ?_, agree.schedules, ?_⟩
  · exact congrArg (run.ran + ·) agree.ran
  · show run.turns ++ eager.turns = run.turns ++ later.turns
    rw [agree.turns]
  · intro turn member
    rcases List.mem_append.mp (show turn ∈ run.turns ++ later.turns from member) with own | further
    · exact others turn own
    · exact agree.silent turn further

end

theorem update_agree (represents : engine.schedule.Represents agenda)
    (twinned : twin.schedule.Represents (agenda.filter (spares guid)))
    (draws : twin.draws = engine.draws) (gone : world.Gone guid)
    (last : World.CountersLast world (engine.update now world texts).world) :
    Agree guid (twin.update now world texts) (engine.update now world texts) := by
  refine update_induction (motive := fun engine agenda world run =>
    ∀ twin : Engine, twin.schedule.Represents (agenda.filter (spares guid)) →
      twin.draws = engine.draws → world.Gone guid → World.CountersLast world run.world →
      Agree guid (twin.update now world texts) run) ?_ ?_ represents world twin twinned draws gone last
  · intro engine agenda world represents late twin twinned draws _ _
    exact agree_idle represents twinned draws late
  · intro engine schedule before due action after world leads reached represents run next later
      further twin twinned draws gone last
    have settled : next.schedule.Represents (before ++ after ++ run.ending.left) :=
      settle_represents represents run
    have left : next.draws = run.draws := settle_draws _ _
    obtain ⟨accepted, first⟩ := action.runRest_accepts now texts action.rest world engine.draws
    obtain ⟨rest, second⟩ := update_accepts settled now run.world texts
    obtain ⟨still, last⟩ := last.split gone first second
    cases involved : action.involves guid with
    | true =>
        -- Only one of the two engines takes the action, and nothing comes of it.
        have needs := (action.involves_iff guid).mp involved
        obtain ⟨ran, turns, unchanged, kept⟩ :=
          Action.run_of_missing needs gone.not_present now texts engine.draws
        have same : (before ++ after ++ run.ending.left).filter (spares guid) =
            (before ++ (due, action) :: after).filter (spares guid) := by
          rw [List.filter_append, filter_left_of_involves involved, List.append_nil,
            List.filter_append, List.filter_append, List.filter_cons_of_neg (by simp [spares, involved])]
        have agree := further twin (by rwa [same]) (by rw [draws, left, kept]) still last
        have world : run.world = world := unchanged
        rw [world] at agree
        exact agree.skip action ran turns
    | false =>
        -- It leads both agendas, and what is left of it is put behind both.
        rw [List.filter_append, List.filter_cons_of_pos (by simp [spares, involved])] at twinned
        obtain ⟨spared, popped, others⟩ := twinned.popDue_leads (leads.filter _) reached
        have runs : action.run now texts world twin.draws = run := by rw [draws]
        have kept : (settle { twin with schedule := spared } run).schedule.Represents
            ((before ++ after ++ run.ending.left).filter (spares guid)) := by
          rw [List.filter_append, List.filter_append, filter_left_of_not_involves involved]
          exact settle_represents others run
        have agree := further _ kept (by rw [settle_draws, left]) still last
        rw [update_take popped]
        simp only [runs]
        refine agree.take action fun turn own => ?_
        rw [action.runRest_turns now texts action.rest world engine.draws turn own,
          ← action.involves_iff, involved]
        exact Bool.false_ne_true

/-- Cancelling for an entity that has been removed and leaving its scripts to be abandoned come to the
same: as many commands are executed and the same ones, with the same world, the same draws and the
same waiting scripts of all others afterwards, in the same order. Without cancelling, too, no command
is executed for the entity. -/
theorem cancelFor_update (attainable : engine.Attainable) (used : guid.counter < world.nextCounter)
    (last : World.CountersLast (world.remove guid)
      (engine.update now (world.remove guid) texts).world) :
    let eager := (engine.cancelFor guid).value.2.update now (world.remove guid) texts
    let lazy := engine.update now (world.remove guid) texts
    eager.ran = lazy.ran ∧ eager.turns = lazy.turns ∧ eager.world = lazy.world ∧
      eager.engine.draws = lazy.engine.draws ∧
      eager.engine.actions = lazy.engine.actions.filter (fun action =>
        action.roles.source ≠ some guid ∧ action.owner ≠ some guid) ∧
      ∀ turn ∈ lazy.turns,
        turn.action.roles.source ≠ some guid ∧ turn.action.owner ≠ some guid := by
  intro eager lazy
  obtain ⟨agenda, represents⟩ := attainable.represents
  have agree : Agree guid eager lazy := update_agree represents
    (cancelFor_represents represents guid) (cancelFor_draws engine guid)
    (world.gone_remove used) last
  obtain ⟨waiting, shown, spared⟩ := agree.schedules
  refine ⟨agree.ran, agree.turns, agree.world, agree.draws, ?_, ?_⟩
  · rw [Engine.actions, Engine.actions, shown.pending, spared.pending, List.filter_map]
    congr 1
    refine List.filter_congr fun entry _ => ?_
    rw [Bool.eq_iff_iff]
    simp [spares, Action.involves]
  · intro turn member
    have silent := agree.silent turn member
    exact ⟨fun source => silent (.inl source), fun owner => silent (.inr owner)⟩

def twoCreatures : World :=
  (({} : World).spawn .creature 20 {}).spawn .creature 21 {}

-- A script of the second creature, and then one of the first.
def twoSources : Engine :=
  let fire (engine : Engine) (source : Guid) : Engine :=
    (engine.fire .event 7 [.emoteAfter 2, .emoteAfter 60] ⟨some source, none⟩ 10 twoCreatures).value.2
  fire (fire default (.creature 21 2)) (.creature 20 1)

def afterRemoval (cancelled : Bool) : EngineRun :=
  let engine := if cancelled then (twoSources.cancelFor (.creature 21 2)).value.2 else twoSources
  engine.update 12 (twoCreatures.remove (.creature 21 2)) {}

theorem twoSources_cancelFor_update :
    twoSources.Attainable ∧ (Guid.creature 21 2).counter < twoCreatures.nextCounter ∧
      World.CountersLast (twoCreatures.remove (.creature 21 2)) (afterRemoval false).world ∧
      (afterRemoval false).runs.length = 2 ∧ (afterRemoval true).runs.length = 1 ∧
      (afterRemoval false).world.effects.length = 1 ∧ (afterRemoval false).engine.pending = 1 ∧
      (afterRemoval true).ran = (afterRemoval false).ran ∧
      (afterRemoval true).world = (afterRemoval false).world := by
  have attainable : twoSources.Attainable := .fire _ _ _ _ _ _ (.fire _ _ _ _ _ _ (.new _))
  have used : (Guid.creature 21 2).counter < twoCreatures.nextCounter := by decide
  have last : World.CountersLast (twoCreatures.remove (.creature 21 2)) (afterRemoval false).world := by
    unfold World.CountersLast
    cbv
  have same := cancelFor_update attainable used last
  exact ⟨attainable, used, last, by cbv, by cbv, by cbv, by cbv, same.1, same.2.2.1⟩

end Engine

end WorldScripts
