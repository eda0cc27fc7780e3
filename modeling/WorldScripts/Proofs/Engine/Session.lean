import WorldScripts.Proofs.Engine.Course
import WorldScripts.Proofs.Engine.Reachable
import WorldScripts.Proofs.StableOrder

/-!
Sessions: an engine and a world over any number of calls, with a record of what became of each
action. The record tells of one action in a fixed form, however much happens to others in between:
it is fired, some of its commands are executed, and then it may be closed. As long as it is not, it
waits with the commands that are still to be executed.
-/

namespace WorldScripts

inductive Move where
  | fire (table : ScriptTable) (key : UInt32) (commands : List Instruction) (roles : Roles)
      (now : UInt64)
  | update (now : UInt64) (texts : Texts)
  | cancelFor (guid : Guid)
  | edit (world : World)

/-- If a script is fired, that is not at the end of time. -/
def Move.InTime : Move → Prop
  | .fire _ _ _ _ now => Timely now
  | .update .. | .cancelFor _ | .edit _ => True

instance : DecidablePred Move.InTime
  | .fire _ _ _ _ now => inferInstanceAs (Decidable (Timely now))
  | .update .. | .cancelFor _ | .edit _ => isTrue trivial

inductive Event where
  | fired (action : Action) (commands : List Instruction)
  | executed (turn : Turn)
  | ended (action : Action) (ending : Ending)
  | cancelled (action : Action)

namespace Event

def id : Event → Nat
  | .fired action _ | .ended action _ | .cancelled action => action.id
  | .executed turn => turn.action.id

/-- The action has finished, was abandoned, terminated or cancelled. -/
def Closes : Event → Prop
  | .fired .. | .executed _ => False
  | .ended .. | .cancelled _ => True

def turn? : Event → Option Turn
  | .executed turn => some turn
  | .fired .. | .ended .. | .cancelled _ => none

end Event

def about (id : Nat) (past : List Event) : List Event :=
  past.filter fun event => event.id == id

def turnsOf (id : Nat) (past : List Event) : List Turn :=
  (about id past).filterMap Event.turn?

structure Session where
  engine : Engine
  world : World
  past : List Event := []

namespace Session

/-- What is recorded of an action that was taken. -/
def happened (taken : Action × ActionRun) : List Event :=
  taken.2.turns.map .executed ++
    if Engine.isOver taken then [.ended taken.1 taken.2.ending] else []

def move (session : Session) : Move → Session
  | .fire table key commands roles now =>
      let action := session.engine.prepare table key commands roles now session.world
      match (session.engine.fire table key commands roles now session.world).value with
      | (false, engine) => { session with engine }
      | (true, engine) =>
          { session with engine, past := session.past ++ [.fired action commands] }
  | .update now texts =>
      let run := session.engine.update now session.world texts
      ⟨run.engine, run.world, session.past ++ run.runs.flatMap happened⟩
  | .cancelFor guid =>
      let cancelled := (session.engine.schedule.cancelWhere (·.involves guid)).1
      { session with
        engine := (session.engine.cancelFor guid).value.2
        past := session.past ++ cancelled.map .cancelled }
  | .edit world => { session with world }

def start (draws : Draws) (world : World) : Session where
  engine := { draws }
  world := world

def play (session : Session) (moves : List Move) : Session :=
  moves.foldl move session

end Session

/-- The commands of an action in the order of their delays are those that were executed, when they
were due and nobody was missing, and then those that are left. -/
structure Progress (action : Action) (commands : List Instruction) (turns : List Turn)
    (left : List Instruction) : Prop where
  sorted : StablySorted (fun instruction => instruction.delay.toNat) commands
    (turns.map Turn.instruction ++ left)
  due : ∀ turn ∈ turns, action.dueAt turn.instruction ≤ turn.now.toNat
  present : ∀ turn ∈ turns, ∀ guid, action.Needs guid → turn.world.Present guid

/-- What may be told of one action, and what then waits of it. -/
inductive Standing (id : Nat) : List Event → List Action → Prop where
  | unknown : Standing id [] []
  | underWay {action : Action} {commands : List Instruction} {turns : List Turn}
      {left : List Instruction} : action.id = id → Progress action commands turns left →
      Standing id (.fired action commands :: turns.map .executed) [{ action with rest := left }]
  | closed {action : Action} {commands : List Instruction} {turns : List Turn}
      {left : List Instruction} {closing : Event} : action.id = id →
      Progress action commands turns left → closing.Closes →
      Standing id (.fired action commands :: (turns.map .executed ++ [closing])) []

def Agenda.waiting (id : Nat) (agenda : Agenda Action) : List Action :=
  (agenda.map Prod.snd).filter fun action => action.id == id

/-- The record and the agenda tell the same of each action. -/
structure Told (past : List Event) (agenda : Agenda Action) (fired : Nat) : Prop where
  standing : ∀ id, Standing id (about id past) (agenda.waiting id)
  known : ∀ event ∈ past, event.id < fired

section

variable {past : List Event} {agenda : Agenda Action} {fired : Nat} {action : Action}

theorem about_append (id : Nat) (before after : List Event) :
    about id (before ++ after) = about id before ++ about id after :=
  List.filter_append before after

theorem about_eq_nil {id : Nat} (others : ∀ event ∈ past, event.id ≠ id) : about id past = [] := by
  refine List.filter_eq_nil_iff.mpr ?_
  intro event member same
  exact others event member (beq_iff_eq.mp same)

theorem about_eq_self {id : Nat} (own : ∀ event ∈ past, event.id = id) : about id past = past :=
  List.filter_eq_self.mpr fun event member => beq_iff_eq.mpr (own event member)

theorem waiting_append (id : Nat) (before after : Agenda Action) :
    (before ++ after : Agenda Action).waiting id = before.waiting id ++ after.waiting id := by
  simp only [Agenda.waiting, List.map_append, List.filter_append]

theorem waiting_eq_nil {id : Nat} (others : ∀ entry ∈ agenda, entry.2.id ≠ id) :
    agenda.waiting id = [] := by
  refine List.filter_eq_nil_iff.mpr ?_
  intro action member same
  obtain ⟨entry, inside, rfl⟩ := List.mem_map.mp member
  exact others entry inside (beq_iff_eq.mp same)

theorem waiting_singleton {id : Nat} {entry : UInt64 × Action} (own : entry.2.id = id) :
    Agenda.waiting id [entry] = [entry.2] := by
  simp [Agenda.waiting, own]

theorem told_nil : Told [] [] 0 :=
  ⟨fun _ => .unknown, by simp⟩

theorem Told.fire (told : Told past agenda fired) (known : ∀ entry ∈ agenda, entry.2.id < fired)
    {commands : List Instruction} (due : UInt64) (fresh : action.id = fired)
    (rest : action.rest = Action.order commands) :
    Told (past ++ [.fired action commands]) (agenda ++ [(due, action)]) (fired + 1) := by
  refine ⟨?_, ?_⟩
  · intro id
    rw [about_append, waiting_append]
    by_cases own : action.id = id
    · have nothing : about id past = [] :=
        about_eq_nil fun event member => by have := told.known event member; omega
      have nobody : agenda.waiting id = [] :=
        waiting_eq_nil fun entry member => by have := known entry member; omega
      have progress : Progress action commands [] action.rest := by
        refine ⟨?_, by simp, by simp⟩
        rw [rest]
        exact stablySorted_mergeSort _ commands
      rw [nothing, nobody, about_eq_self (by simpa [Event.id] using own), waiting_singleton own]
      exact .underWay own progress
    · have untold : about id [.fired action commands] = [] :=
        about_eq_nil (by simpa [Event.id] using own)
      have absent : Agenda.waiting id [(due, action)] = [] := waiting_eq_nil (by simpa using own)
      rw [untold, absent, List.append_nil, List.append_nil]
      exact told.standing id
  · intro event member
    rcases List.mem_append.mp member with before | last
    · exact Nat.lt_succ_of_lt (told.known event before)
    · rw [List.mem_singleton.mp last]
      exact Nat.lt_succ_of_le (Nat.le_of_eq fresh)

/-! Taking an action that waits. -/

variable {before after : Agenda Action} {due now : UInt64} {texts : Texts} {world : World}
variable {draws : Draws}

theorem Progress.advance {commands left : List Instruction} {turns : List Turn}
    {passage : Passage} (progress : Progress action commands turns left)
    (course : Course now texts { action with rest := left } left world draws passage) :
    ∃ further, Progress action commands (turns ++ passage.turns) further ∧
      (passage.kept = [] ∨ passage.kept = [{ action with rest := further }]) := by
  obtain ⟨⟨further, split, kept⟩, lawful⟩ := course.turns
  refine ⟨further, ⟨?_, ?_, ?_⟩, kept⟩
  · rw [List.map_append, List.append_assoc, split]
    exact progress.sorted
  · intro turn member
    rcases List.mem_append.mp member with earlier | new
    · exact progress.due turn earlier
    · obtain ⟨_, same, reached, _⟩ := lawful turn new
      rw [same]
      exact reached
  · intro turn member
    rcases List.mem_append.mp member with earlier | new
    · exact progress.present turn earlier
    · exact (lawful turn new).2.2.2

theorem Told.underWay (told : Told past (before ++ (due, action) :: after) fired) :
    before.waiting action.id = [] ∧ after.waiting action.id = [] ∧
      ∃ first commands turns left, action = { first with rest := left } ∧
        Progress first commands turns left ∧
        about action.id past = .fired first commands :: turns.map .executed := by
  have standing := told.standing action.id
  have split : (before ++ (due, action) :: after : Agenda Action).waiting action.id =
      before.waiting action.id ++ action :: after.waiting action.id := by
    simp [Agenda.waiting]
  rw [split] at standing
  generalize about action.id past = history at standing
  generalize same : before.waiting action.id ++ action :: after.waiting action.id = all at standing
  cases standing with
  | unknown => simp at same
  | closed => simp at same
  | underWay own progress =>
      rcases List.append_eq_singleton_iff.mp same with ⟨none, rest⟩ | ⟨_, rest⟩
      · obtain ⟨rfl, others⟩ := List.cons.inj rest
        exact ⟨none, others, _, _, _, _, rfl, progress, rfl⟩
      · cases rest

theorem happened_closed {run : ActionRun} (closed : run.ending.left = []) :
    Session.happened (action, run) =
      run.turns.map Event.executed ++ [.ended action run.ending] := by
  simp [Session.happened, Engine.isOver, closed]

theorem happened_waits {run : ActionRun} (waits : run.ending.left ≠ []) :
    Session.happened (action, run) = run.turns.map Event.executed := by
  simp [Session.happened, Engine.isOver, waits]

-- Running an action is recorded of this action only, and so is what is left of it.
theorem happened_own {run : ActionRun}
    (course : Course now texts action action.rest world draws run.passage) :
    (∀ event ∈ Session.happened (action, run), event.id = action.id) ∧
      ∀ entry ∈ run.ending.left, entry.2.id = action.id := by
  obtain ⟨⟨left, _, kept⟩, lawful⟩ := course.turns
  constructor
  · intro event member
    rcases List.mem_append.mp member with executed | ended
    · obtain ⟨turn, inside, rfl⟩ := List.mem_map.mp executed
      exact congrArg Action.id (lawful turn inside).1
    · split at ended
      · rw [List.mem_singleton.mp ended]
        rfl
      · cases ended
  · intro entry member
    have inside : entry.2 ∈ run.passage.kept := List.mem_map_of_mem member
    rcases kept with nothing | itself
    · rw [nothing] at inside
      cases inside
    · rw [itself] at inside
      rw [List.mem_singleton.mp inside]

theorem Told.take {run : ActionRun} (told : Told past (before ++ (due, action) :: after) fired)
    (known : action.id < fired)
    (course : Course now texts action action.rest world draws run.passage) :
    Told (past ++ Session.happened (action, run)) (before ++ after ++ run.ending.left) fired := by
  obtain ⟨own, ownLeft⟩ := happened_own course
  refine ⟨?_, ?_⟩
  · intro id
    rw [about_append, waiting_append, waiting_append]
    -- All that happens is told of this action, so that for the others nothing changes.
    by_cases same : action.id = id
    · subst id
      obtain ⟨none, none', first, commands, turns, left, rfl, progress, history⟩ := told.underWay
      obtain ⟨further, progress, kept⟩ := progress.advance course
      rw [about_eq_self own, history, none, none']
      rcases kept with nothing | itself
      · have closed : run.ending.left = [] := List.map_eq_nil_iff.mp nothing
        have closes : (Event.ended { first with rest := left } run.ending).Closes := trivial
        have standing := Standing.closed rfl progress closes
        rw [happened_closed closed, closed]
        simpa [Agenda.waiting, ActionRun.passage] using standing
      · have waits : run.ending.left ≠ [] := by
          intro empty
          simp [ActionRun.passage, empty] at itself
        have standing := Standing.underWay rfl progress
        rw [happened_waits waits]
        have left : run.ending.left.map Prod.snd = [{ first with rest := further }] := itself
        simpa [Agenda.waiting, ActionRun.passage, left] using standing
    · have standing := told.standing id
      have untold : about id (Session.happened (action, run)) = [] :=
        about_eq_nil fun event member => by rwa [own event member]
      have absent : Agenda.waiting id run.ending.left = [] :=
        waiting_eq_nil fun entry member => by rwa [ownLeft entry member]
      rw [untold, absent, List.append_nil, List.append_nil]
      simpa [Agenda.waiting, same] using standing
  · intro event member
    rcases List.mem_append.mp member with earlier | new
    · exact told.known event earlier
    · rw [own event new]
      exact known

theorem mem_happened {turn : Turn} {run : ActionRun} :
    .executed turn ∈ Session.happened (action, run) ↔ turn ∈ run.turns := by
  by_cases closed : run.ending.left = []
  · simp [happened_closed closed]
  · simp [happened_waits closed]

/-! Cancelling. -/

theorem Told.cancel (told : Told past agenda fired) (known : ∀ entry ∈ agenda, entry.2.id < fired)
    (gone : Action → Bool) :
    Told (past ++ ((agenda.map Prod.snd).filter gone).map .cancelled)
      (agenda.filter fun entry => !gone entry.2) fired := by
  refine ⟨?_, ?_⟩
  · intro id
    -- It makes no difference whether one looks for a name or for the cancelled first.
    have cancelled : about id (((agenda.map Prod.snd).filter gone).map .cancelled) =
        ((agenda.waiting id).filter gone).map .cancelled := by
      simp only [about, Agenda.waiting, List.filter_map, List.filter_filter, Function.comp_def,
        Event.id, Bool.and_comm]
    have others : Agenda.waiting id (agenda.filter fun entry => !gone entry.2) =
        (agenda.waiting id).filter fun action => !gone action := by
      simp only [Agenda.waiting, List.filter_map, List.filter_filter, Function.comp_def,
        Bool.and_comm]
    have standing := told.standing id
    rw [about_append, cancelled, others]
    generalize about id past = history at standing
    generalize agenda.waiting id = waiting at standing
    cases standing with
    | unknown => exact .unknown
    | closed own progress closes => simpa using Standing.closed own progress closes
    | @underWay action commands turns left own progress =>
        by_cases drop : gone { action with rest := left } = true
        · have closes : (Event.cancelled { action with rest := left }).Closes := trivial
          have standing := Standing.closed own progress closes
          simpa [drop] using standing
        · have standing := Standing.underWay own progress
          simpa [drop] using standing
  · intro event member
    rcases List.mem_append.mp member with earlier | new
    · exact told.known event earlier
    · obtain ⟨action, inside, rfl⟩ := List.mem_map.mp new
      obtain ⟨entry, present, rfl⟩ := List.mem_map.mp (List.mem_filter.mp inside).1
      exact known entry present

/-! Whole sessions. -/

theorem Told.update {engine : Engine} (told : Told past agenda engine.fired)
    (keeps : engine.Keeps agenda) (now : UInt64) (world : World) (texts : Texts) :
    ∃ later, (engine.update now world texts).engine.Keeps later ∧
      Told (past ++ (engine.update now world texts).runs.flatMap Session.happened) later
        (engine.update now world texts).engine.fired := by
  refine keeps.update_induction (motive := fun engine agenda _ run =>
    ∀ past, Told past agenda engine.fired → ∃ later, run.engine.Keeps later ∧
      Told (past ++ run.runs.flatMap Session.happened) later run.engine.fired)
    ?_ ?_ world past told
  · intro engine agenda world keeps _ past told
    refine ⟨agenda, keeps, ?_⟩
    rw [List.flatMap_nil, List.append_nil]
    exact told
  · intro engine next before due action after world later keeps _ _ run _ _ fired further past told
    have member : (due, action) ∈ before ++ (due, action) :: after := by simp
    have course := Action.runRest_course now texts (keeps.timely _ member) action.rest world
      engine.draws
    have taken : Told (past ++ Session.happened (action, run)) (before ++ after ++ run.ending.left)
        engine.fired := told.take (keeps.known _ member) course
    rw [← fired] at taken
    obtain ⟨rest, kept, told⟩ := further _ taken
    refine ⟨rest, kept, ?_⟩
    rw [List.flatMap_cons, ← List.append_assoc]
    exact told

theorem Engine.Keeps.executed_now {engine : Engine} (keeps : engine.Keeps agenda) (now : UInt64)
    (world : World) (texts : Texts) :
    ∀ taken ∈ (engine.update now world texts).runs, ∀ turn ∈ taken.2.turns, turn.now = now := by
  refine keeps.update_induction (motive := fun _ _ _ run =>
    ∀ taken ∈ run.runs, ∀ turn ∈ taken.2.turns, turn.now = now) ?_ ?_ world
  · intro engine agenda world _ _ taken member
    cases member
  · intro engine next before due action after world later keeps _ _ run _ _ _ further taken member
    rcases List.mem_cons.mp member with first | others
    · subst first
      have course := Action.runRest_course now texts (keeps.timely (due, action) (by simp))
        action.rest world engine.draws
      intro turn executed
      exact (course.turns.2 turn executed).2.1
    · exact further taken others

end

namespace Session

/-- The engine is in order, and what waits in it is what the record says. -/
def Sound (session : Session) : Prop :=
  ∃ agenda, session.engine.Keeps agenda ∧ Told session.past agenda session.engine.fired

variable {session : Session}

theorem sound_start (draws : Draws) (world : World) : (start draws world).Sound :=
  ⟨[], Engine.keeps_new draws, told_nil⟩

theorem Sound.move (sound : session.Sound) {move : Move} (inTime : move.InTime) :
    (session.move move).Sound := by
  obtain ⟨agenda, keeps, told⟩ := sound
  cases move with
  | fire table key commands roles now =>
      by_cases empty : commands = []
      · subst commands
        simp only [Session.move, Engine.fire_nil]
        exact ⟨agenda, keeps, told⟩
      · obtain ⟨due, next⟩ :=
          Engine.exists_nextDue table key roles now session.world session.engine empty
        have kept := keeps.fire table key roles now session.world inTime next
        have value := Engine.fire_value table key roles now session.world session.engine next
        rw [value] at kept
        simp only [Session.move, value]
        exact ⟨_, kept, told.fire keeps.known due rfl rfl⟩
  | update now texts => exact told.update keeps now session.world texts
  | cancelFor guid =>
      have kept := keeps.cancelFor guid
      have told := told.cancel keeps.known fun action => action.involves guid
      have fired : (session.engine.cancelFor guid).value.2.fired = session.engine.fired := by
        rw [keeps.cancelFor_value]
      refine ⟨_, kept, ?_⟩
      simp only [Session.move, fired]
      rw [(keeps.schedule.cancelWhere _).1]
      exact told
  | edit world => exact ⟨agenda, keeps, told⟩

theorem Sound.play (sound : session.Sound) {moves : List Move}
    (inTime : ∀ move ∈ moves, move.InTime) : (session.play moves).Sound := by
  induction moves generalizing session with
  | nil => exact sound
  | cons move rest ih =>
      have first := sound.move (inTime move List.mem_cons_self)
      exact ih first fun move member => inTime move (List.mem_cons_of_mem _ member)

theorem past_move (session : Session) (move : Move) :
    session.past <+: (session.move move).past := by
  cases move with
  | fire table key commands roles now =>
      simp only [Session.move]
      split
      · exact List.prefix_refl _
      · exact List.prefix_append _ _
  | update now texts => exact List.prefix_append _ _
  | cancelFor guid => exact List.prefix_append _ _
  | edit world => exact List.prefix_refl _

theorem past_play (session : Session) (moves : List Move) :
    session.past <+: (session.play moves).past := by
  induction moves generalizing session with
  | nil => exact List.prefix_refl _
  | cons move rest ih => exact (past_move session move).trans (ih (session.move move))

end Session

end WorldScripts
