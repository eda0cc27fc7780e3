import WorldScripts.Proofs.Engine.Attainable
import WorldScripts.Proofs.Engine.Sweep

/-!
Scripts that have an engine to themselves. What an update does with such a script is what running it
does. A run that stops to wait can be taken up again, and then it comes to what a single run at the
later time comes to; so it does not matter how often an engine with one script is updated.
-/

namespace WorldScripts

/-- The turn, whenever it was taken and whatever was left to run then. -/
def Turn.timeless (turn : Turn) : Turn :=
  { turn with now := 0, action := { turn.action with rest := [] } }

namespace ActionRun

def timeless (run : ActionRun) : ActionRun :=
  { run with turns := run.turns.map Turn.timeless }

/-- Takes up a run that has stopped to wait. A run that is over stays as it is. -/
def resume (run : ActionRun) (now : UInt64) (texts : Texts) : ActionRun :=
  match run.ending with
  | .waits _ waiting =>
      let later := waiting.run now texts run.world run.draws
      { later with
        ran := run.ran + later.ran
        turns := run.turns ++ later.turns
        log := run.log ++ later.log }
  | .finished | .abandoned _ | .terminated => run

variable (run : ActionRun) (turn : Turn) (lines : List LogLine)

theorem timeless_after :
    (run.after turn lines).timeless = run.timeless.after turn.timeless lines := rfl

theorem resume_after (now : UInt64) (texts : Texts) :
    (run.after turn lines).resume now texts = (run.resume now texts).after turn lines := by
  obtain ⟨ending, ran, turns, world, draws, log⟩ := run
  cases ending with
  | waits due waiting => simp [resume, after, Nat.add_right_comm]
  | finished => rfl
  | abandoned gone => rfl
  | terminated => rfl

end ActionRun

namespace Action

variable (action : Action)

-- The commands that remain are read off the list, not off the action.
theorem runRest_rest (others : List Instruction) (now : UInt64) (texts : Texts)
    (rest : List Instruction) (world : World) (draws : Draws) :
    (runRest { action with rest := others } now texts rest world draws).timeless =
      (action.runRest now texts rest world draws).timeless := by
  induction rest generalizing world draws with
  | nil => rfl
  | cons instruction rest ih =>
      rcases action.command_cases now texts instruction world draws with early | ⟨reached,
        ⟨gone, absent⟩ | ⟨present, done, left, executed, terminate | proceed⟩⟩
      · rw [action.runRest_early early, runRest_early { action with rest := others } early]
        rfl
      · rw [action.runRest_absent reached absent,
          runRest_absent { action with rest := others } reached absent]
        rfl
      · rw [action.runRest_terminate reached present executed terminate,
          runRest_terminate { action with rest := others } reached present executed
            terminate]
        rfl
      · rw [action.runRest_proceed reached present executed proceed,
          runRest_proceed { action with rest := others } reached present executed proceed,
          ActionRun.timeless_after, ActionRun.timeless_after, ih]
        rfl

theorem runRest_resume {early late : UInt64} (order : early ≤ late) (texts : Texts)
    (rest : List Instruction) (world : World) (draws : Draws) :
    (action.runRest late texts rest world draws).timeless =
      ((action.runRest early texts rest world draws).resume late texts).timeless := by
  induction rest generalizing world draws with
  | nil => rfl
  | cons instruction rest ih =>
      rcases action.command_cases early texts instruction world draws with waits | ⟨reached, begun⟩
      · -- Here the run stops early, and is taken up at once with all that remains.
        rw [action.runRest_early waits]
        simp only [ActionRun.resume, Action.run, List.nil_append, Nat.zero_add]
        exact (action.runRest_rest (instruction :: rest) late texts (instruction :: rest) world
          draws).symm
      · -- What is due early is due late, so that both runs go the same way.
        have reached' : ¬ late < action.dueOf instruction :=
          UInt64.not_lt.mpr (UInt64.le_trans (UInt64.not_lt.mp reached) order)
        rcases begun with ⟨gone, absent⟩ | ⟨present, done, left, executed, terminate | proceed⟩
        · rw [action.runRest_absent reached absent, action.runRest_absent reached' absent]
          rfl
        · rw [action.runRest_terminate reached present executed terminate,
            action.runRest_terminate reached' present executed terminate]
          rfl
        · rw [action.runRest_proceed reached present executed proceed,
            action.runRest_proceed reached' present executed proceed, ActionRun.resume_after,
            ActionRun.timeless_after, ActionRun.timeless_after, ih]
          rfl

end Action

def EngineRun.andThen (first second : EngineRun) : EngineRun :=
  { second with
    ran := first.ran + second.ran
    runs := first.runs ++ second.runs
    log := first.log ++ second.log }

theorem EngineRun.turns_andThen (first second : EngineRun) :
    (first.andThen second).turns = first.turns ++ second.turns :=
  List.flatMap_append

namespace Engine

variable {engine : Engine} {action : Action} {due now early late : UInt64} {texts : Texts}
variable {world : World}

theorem Tracks.update_none (tracks : engine.Tracks []) (now : UInt64) (world : World)
    (texts : Texts) : engine.update now world texts = { engine, world } :=
  update_idle (tracks.schedule.popDue_late (by simp))

/-- What an update comes to is what a run of an action came to. -/
structure Follows (result : EngineRun) (run : ActionRun) : Prop where
  tracks : result.engine.Tracks run.ending.left
  draws : result.engine.draws = run.draws
  world : result.world = run.world
  ran : result.ran = run.ran
  turns : result.turns = run.turns
  log : result.log = run.log

theorem Tracks.update_single (tracks : engine.Tracks [(due, action)]) (now : UInt64) (world : World)
    (texts : Texts) :
    Follows (engine.update now world texts) (action.run now texts world engine.draws) := by
  by_cases early : now < due
  · -- Running the action comes to nothing either.
    have filed : action.nextDue? = some due := tracks.filed (due, action) List.mem_cons_self
    obtain ⟨instruction, current, rfl⟩ := Option.map_eq_some_iff.mp filed
    obtain ⟨rest, remain⟩ := List.head?_eq_some_iff.mp current
    have waits : action.run now texts world engine.draws =
        { ending := .waits (action.dueOf instruction) action, world, draws := engine.draws } := by
      rw [Action.run, remain, action.runRest_early early, ← remain]
    rw [waits, update_idle (tracks.schedule.popDue_late (by simpa using early))]
    exact ⟨tracks, rfl, rfl, rfl, rfl, rfl⟩
  · have leads : Agenda.Leads [] (due, action) [] := ⟨by simp, by simp⟩
    obtain ⟨schedule, first, represents⟩ :=
      tracks.schedule.popDue_leads leads (UInt64.not_lt.mp early)
    have single : engine.Tracks ([] ++ (due, action) :: []) := tracks
    have settled := single.settle represents now texts world engine.draws
    -- What is left waits for a time to come, and so the update ends here.
    have late := left_late action now texts world engine.draws
    rw [update_take first]
    dsimp only
    rw [update_idle (settled.schedule.popDue_late late)]
    refine ⟨settled, settle_draws _ _, rfl, rfl, ?_, ?_⟩
    · simp [EngineRun.turns]
    · simp

theorem Follows.resume {result : EngineRun} {run : ActionRun} (follows : Follows result run)
    (now : UInt64) (texts : Texts) :
    Follows (result.andThen (result.engine.update now result.world texts))
      (run.resume now texts) := by
  obtain ⟨tracks, draws, world, ran, turns, log⟩ := follows
  obtain ⟨ending, _, _, _, _, _⟩ := run
  subst draws world ran turns log
  cases ending with
  | waits due waiting =>
      obtain ⟨tracks, draws, world, ran, turns, log⟩ :=
        Tracks.update_single tracks now result.world texts
      refine ⟨tracks, draws, world, congrArg (result.ran + ·) ran, ?_, congrArg (result.log ++ ·) log⟩
      rw [EngineRun.turns_andThen, turns]
      rfl
  | finished | abandoned | terminated =>
      rw [Tracks.update_none tracks now result.world texts]
      refine ⟨tracks, rfl, rfl, rfl, ?_, List.append_nil _⟩
      rw [EngineRun.turns_andThen]
      exact List.append_nil _

theorem Follows.same {a b : EngineRun} {left right : ActionRun} (follows : Follows a left)
    (follows' : Follows b right) (same : left.timeless = right.timeless) :
    a.world = b.world ∧ a.engine.draws = b.engine.draws ∧ a.engine.actions = b.engine.actions ∧
      a.engine.nextDue? = b.engine.nextDue? ∧ a.engine.counter = b.engine.counter ∧ a.ran = b.ran ∧
      a.turns.map Turn.timeless = b.turns.map Turn.timeless ∧ a.log = b.log := by
  unfold ActionRun.timeless at same
  obtain ⟨ending, ran, turns, world, draws, log⟩ := ActionRun.mk.inj same
  have tracks := follows.tracks
  have tracks' := follows'.tracks
  rw [ending] at tracks
  refine ⟨?_, ?_, ?_, ?_, ?_, ?_, ?_, ?_⟩
  · rw [follows.world, follows'.world, world]
  · rw [follows.draws, follows'.draws, draws]
  · exact tracks.schedule.pending.trans tracks'.schedule.pending.symm
  · exact tracks.schedule.nextDue?.trans tracks'.schedule.nextDue?.symm
  · exact congrArg ScheduledScriptCounter.mk (tracks.counter.trans tracks'.counter.symm)
  · rw [follows.ran, follows'.ran, ran]
  · rw [follows.turns, follows'.turns, turns]
  · rw [follows.log, follows'.log, log]

/-- It does not matter to a script that has the engine to itself whether there is an update on the
way. -/
theorem update_interrupted (attainable : engine.Attainable) (alone : engine.pending = 1)
    (order : early ≤ late) (world : World) (texts : Texts) :
    let first := engine.update early world texts
    let second := first.engine.update late first.world texts
    let single := engine.update late world texts
    second.world = single.world ∧ second.engine.draws = single.engine.draws ∧
      second.engine.actions = single.engine.actions ∧
      second.engine.nextDue? = single.engine.nextDue? ∧
      second.engine.counter = single.engine.counter ∧ first.ran + second.ran = single.ran ∧
      (first.turns ++ second.turns).map Turn.timeless = single.turns.map Turn.timeless ∧
      first.log ++ second.log = single.log := by
  intro first second single
  obtain ⟨agenda, tracks⟩ := attainable.tracks
  obtain ⟨⟨due, action⟩, rfl⟩ := List.length_eq_one_iff.mp (tracks.schedule.size.symm.trans alone)
  have split := (tracks.update_single early world texts).resume late texts
  have whole := tracks.update_single late world texts
  have same := action.runRest_resume order texts action.rest world engine.draws
  have agree := split.same whole same.symm
  rwa [EngineRun.turns_andThen] at agree

def threeEmotes : Engine :=
  ((default : Engine).fire .event 7 [.emoteAfter 60, .emoteAfter 2, .emoteAfter 5]
    ⟨some (.creature 20 1), none⟩ 10 {}).value.2

theorem threeEmotes_interrupted :
    let world := ({} : World).spawn .creature 20 {}
    threeEmotes.Attainable ∧ threeEmotes.pending = 1 ∧ (12 : UInt64) ≤ 20 ∧
      (threeEmotes.update 12 world {}).ran = 1 ∧ (threeEmotes.update 20 world {}).ran = 2 ∧
      (threeEmotes.update 20 world {}).engine.nextDue? = some 70 ∧
      ((threeEmotes.update 12 world {}).engine.update 20 (threeEmotes.update 12 world {}).world {}).world =
        (threeEmotes.update 20 world {}).world := by
  intro world
  have attainable : threeEmotes.Attainable := .fire _ _ _ _ _ _ (.new _)
  have alone : threeEmotes.pending = 1 := by cbv
  have order : (12 : UInt64) ≤ 20 := by decide
  exact ⟨attainable, alone, order, by cbv, by cbv, by cbv,
    (update_interrupted attainable alone order world {}).1⟩

end Engine

end WorldScripts
