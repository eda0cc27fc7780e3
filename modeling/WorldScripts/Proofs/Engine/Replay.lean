import WorldScripts.Proofs.Engine.Attainable
import WorldScripts.Proofs.Engine.Sweep
import WorldScripts.Proofs.Step.Planning

/-!
The record of effects tells the whole of an update. Of what the commands asked for, the record has what
was accepted, each once and in the order of the commands; so it rebuilds the world after the update from
the one before it.
-/

namespace WorldScripts

namespace Turn

variable (turn : Turn) (texts : Texts) (draws : Draws)

def request? : Option Effect :=
  turn.instruction.request? turn.action.roles turn.world texts draws

/-- The draws that were left to the turns behind it. -/
def left : Draws :=
  (turn.instruction.execute turn.action.roles turn.world texts draws).2

/-- The world took what the turn handed to it. -/
def Moves (effect : Effect) (next : World) : Prop :=
  turn.request? texts draws = some effect ∧ turn.world.apply effect = (.ok (), next)

/-- The turn handed nothing to its world, or something that was refused. -/
def Rests : Prop :=
  ∀ effect, turn.request? texts draws = some effect →
    ∃ refusal, turn.world.apply effect = (.error refusal, turn.world)

theorem moves_or_rests :
    (∃ effect next, turn.Moves texts draws effect next) ∨ turn.Rests texts draws := by
  cases asked : turn.request? texts draws with
  | none =>
      right
      intro effect same
      rw [asked] at same
      cases same
  | some effect =>
      rcases turn.world.apply_cases effect with ⟨refusal, _, applied⟩ | ⟨_, applied⟩
      · right
        intro other same
        rw [asked] at same
        cases same
        exact ⟨refusal, applied⟩
      · exact .inl ⟨effect, _, asked, applied⟩

theorem world_of_moves {effect : Effect} {next : World}
    (moves : turn.Moves texts draws effect next) :
    (turn.instruction.execute turn.action.roles turn.world texts draws).1.world = next := by
  obtain ⟨asked, applied⟩ := moves
  rw [Instruction.execute_world]
  rw [request?] at asked
  simp only [asked, World.offered, applied]

theorem world_of_rests (rests : turn.Rests texts draws) :
    (turn.instruction.execute turn.action.roles turn.world texts draws).1.world = turn.world := by
  rw [Instruction.execute_world]
  cases asked : turn.instruction.request? turn.action.roles turn.world texts draws with
  | none => rfl
  | some effect =>
      obtain ⟨refusal, applied⟩ := rests effect asked
      simp only [World.offered, applied]

end Turn

/-- The effects tell what became of the turns: each began in the world that those before it had left
behind, and the effects are those of the turns that changed it. -/
inductive Retraces (texts : Texts) :
    World → Draws → List Turn → List Effect → World → Draws → Prop where
  | done {world : World} {draws : Draws} : Retraces texts world draws [] [] world draws
  | rests {turn : Turn} {turns : List Turn} {effects : List Effect} {after : World}
      {draws spare : Draws} :
      turn.Rests texts draws →
      Retraces texts turn.world (turn.left texts draws) turns effects after spare →
      Retraces texts turn.world draws (turn :: turns) effects after spare
  | moves {turn : Turn} {turns : List Turn} {effect : Effect} {effects : List Effect}
      {next after : World} {draws spare : Draws} :
      turn.Moves texts draws effect next →
      Retraces texts next (turn.left texts draws) turns effects after spare →
      Retraces texts turn.world draws (turn :: turns) (effect :: effects) after spare

namespace Retraces

variable {texts : Texts} {before middle after : World} {turns others : List Turn}
variable {accepted further : List Effect} {draws left spare : Draws}

theorem accepts (retraces : Retraces texts before draws turns accepted after spare) :
    before.Accepts accepted after := by
  induction retraces with
  | done => exact World.accepts_nil.mpr rfl
  | rests _ _ ih => exact ih
  | moves moves _ ih => exact World.accepts_cons.mpr ⟨_, moves.2, ih⟩

theorem append (first : Retraces texts before draws turns accepted middle left)
    (rest : Retraces texts middle left others further after spare) :
    Retraces texts before draws (turns ++ others) (accepted ++ further) after spare := by
  induction first with
  | done => exact rest
  | rests rests _ ih => exact .rests rests (ih rest)
  | moves moves _ ih => exact .moves moves (ih rest)

theorem execute (turn : Turn) {done : Execution}
    (executed : turn.instruction.execute turn.action.roles turn.world texts draws = (done, left)) :
    ∃ accepted, Retraces texts turn.world draws [turn] accepted done.world left := by
  have kept : turn.left texts draws = left := congrArg Prod.snd executed
  have world : (turn.instruction.execute turn.action.roles turn.world texts draws).1.world =
      done.world := congrArg (·.1.world) executed
  rcases turn.moves_or_rests texts draws with ⟨effect, next, moves⟩ | rests
  · rw [turn.world_of_moves texts draws moves] at world
    subst world kept
    exact ⟨[effect], .moves moves .done⟩
  · rw [turn.world_of_rests texts draws rests] at world
    rw [← world]
    subst kept
    exact ⟨[], .rests rests .done⟩

end Retraces

namespace Action

variable (action : Action) (now : UInt64) (texts : Texts)

theorem runRest_retraces (rest : List Instruction) (world : World) (draws : Draws) :
    let run := action.runRest now texts rest world draws
    ∃ accepted, Retraces texts world draws run.turns accepted run.world run.draws := by
  induction rest generalizing world draws with
  | nil => exact ⟨[], .done⟩
  | cons instruction rest ih =>
      rcases action.command_cases now texts instruction world draws with early | ⟨reached,
        ⟨gone, absent⟩ | ⟨present, done, left, executed, terminate | proceed⟩⟩
      · rw [action.runRest_early early]
        exact ⟨[], .done⟩
      · rw [action.runRest_absent reached absent]
        exact ⟨[], .done⟩
      · rw [action.runRest_terminate reached present executed terminate]
        exact Retraces.execute ⟨action, instruction, now, world⟩ executed
      · rw [action.runRest_proceed reached present executed proceed]
        obtain ⟨accepted, first⟩ := Retraces.execute ⟨action, instruction, now, world⟩ executed
        obtain ⟨further, later⟩ := ih done.world left
        exact ⟨accepted ++ further, first.append later⟩

end Action

namespace Engine

variable {engine : Engine} {agenda : Agenda Action}

theorem update_retraces (represents : engine.schedule.Represents agenda) (now : UInt64)
    (world : World) (texts : Texts) :
    let run := engine.update now world texts
    ∃ accepted,
      Retraces texts world engine.draws run.turns accepted run.world run.engine.draws := by
  refine update_induction (motive := fun engine _ world run => ∃ accepted,
    Retraces texts world engine.draws run.turns accepted run.world run.engine.draws)
    ?_ ?_ represents world
  · intro engine agenda world _ _
    exact ⟨[], .done⟩
  · intro engine schedule before due action after world _ _ _ run next later further
    obtain ⟨accepted, first⟩ := action.runRest_retraces now texts action.rest world engine.draws
    obtain ⟨further, rest⟩ := further
    rw [settle_draws] at rest
    exact ⟨accepted ++ further, first.append rest⟩

/-- The effects that were recorded during an update, applied one after the other to the world before
it, are all accepted and lead to the world after it. They are what the commands of the update asked for,
less what was refused. -/
theorem update_replays (attainable : engine.Attainable) (now : UInt64) (world : World)
    (texts : Texts) :
    let run := engine.update now world texts
    let recorded := run.world.effects.drop world.effects.length
    run.world.effects = world.effects ++ recorded ∧
      world.applyAll recorded = (.ok (), run.world) ∧
      Retraces texts world engine.draws run.turns recorded run.world run.engine.draws := by
  intro run recorded
  obtain ⟨agenda, represents⟩ := attainable.represents
  obtain ⟨accepted, retraces⟩ := update_retraces represents now world texts
  have grown : run.world.effects = world.effects ++ accepted := retraces.accepts.recorded
  have same : recorded = accepted := by
    simp only [recorded]
    rw [grown, List.drop_left]
  rw [same]
  exact ⟨grown, retraces.accepts, retraces⟩

def failingSpellWorld : World :=
  ((({} : World).spawn .creature 20 {}).spawn .creature 21 {}).failSpell 99

-- The first one casts that spell at the other, shows its anger, runs off and is angry still.
def castAndDespawn : List Instruction :=
  let act (command : Command) : Instruction :=
    { Instruction.emoteAfter 1 with command }
  [act (.castSpell 99 .sourceToTarget true), .emoteAfter 1, act (.despawnSelf 0), .emoteAfter 1]

def castTwice : Engine :=
  let fire (engine : Engine) : Engine :=
    let roles : Roles := ⟨some (.creature 20 1), some (.creature 21 2)⟩
    (engine.fire .event 7 castAndDespawn roles 10 failingSpellWorld).value.2
  fire (fire default)

theorem castTwice_update_replays :
    castTwice.Attainable ∧ (castTwice.update 12 failingSpellWorld {}).runs.length = 2 ∧
      (castTwice.update 12 failingSpellWorld {}).ran = 3 ∧
      (castTwice.update 12 failingSpellWorld {}).world.effects =
        [.emote (.creature 20 1) 1, .despawn (.creature 20 1) 0] ∧
      failingSpellWorld.applyAll [.emote (.creature 20 1) 1, .despawn (.creature 20 1) 0] =
        (.ok (), (castTwice.update 12 failingSpellWorld {}).world) := by
  have attainable : castTwice.Attainable := .fire _ _ _ _ _ _ (.fire _ _ _ _ _ _ (.new _))
  have told : (castTwice.update 12 failingSpellWorld {}).world.effects =
      [.emote (.creature 20 1) 1, .despawn (.creature 20 1) 0] := by cbv
  have replays := (update_replays attainable 12 failingSpellWorld {}).2.1
  rw [told] at replays
  exact ⟨attainable, by cbv, by cbv, told, replays⟩

end Engine

end WorldScripts
