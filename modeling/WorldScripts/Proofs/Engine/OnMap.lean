import WorldScripts.Proofs.Engine.SingleAction
import WorldScripts.Proofs.Engine.Replay
import WorldScripts.Proofs.Step.Places
import WorldScripts.Proofs.World.Frame

/-!
Who may be off the map. The points of rows were checked when the rows were read, and whoever is sent to
somebody is sent where somebody is. A dynamic move that keeps a distance computes a point which nothing
checks. So in a world where all are on the map, all stay there, apart from those whom such a move has put
somewhere and those who were sent there after them.
-/

namespace WorldScripts

/-- The turn was a dynamic move that keeps a distance, and it put somebody at the point. -/
def Turn.MovesDynamically (turn : Turn) (texts : Texts) (draws : Draws) (point : Position) : Prop :=
  ∃ maxDistance minDistance effect next,
    turn.instruction.command = .moveDynamic maxDistance minDistance ∧ maxDistance ≠ 0 ∧
      turn.Moves texts draws effect next ∧ effect.point? = some point

/-- One of the turns has moved to the point, with the draws that were left to it. -/
def MovedDynamically (texts : Texts) : Draws → List Turn → Position → Prop
  | _, [], _ => False
  | draws, turn :: turns, point =>
      turn.MovesDynamically texts draws point ∨ MovedDynamically texts (turn.left texts draws) turns point

theorem MovedDynamically.command {texts : Texts} {draws : Draws} {turns : List Turn} {point : Position}
    (moved : MovedDynamically texts draws turns point) :
    ∃ turn ∈ turns, ∃ maxDistance minDistance,
      turn.instruction.command = .moveDynamic maxDistance minDistance ∧ maxDistance ≠ 0 := by
  induction turns generalizing draws with
  | nil => exact moved.elim
  | cons turn turns ih =>
      rcases moved with ⟨maxDistance, minDistance, _, _, command, away, _⟩ | later
      · exact ⟨turn, List.mem_cons_self, maxDistance, minDistance, command, away⟩
      · obtain ⟨turn, member, found⟩ := ih later
        exact ⟨turn, List.mem_cons_of_mem _ member, found⟩

/-- On the map, or one of the places that are known to be off it; and of finite height and direction
in either case. -/
structure Position.OnMapOr (position : Position) (other : Position → Prop) : Prop where
  height : position.z.isFinite = true
  direction : position.o.isFinite = true
  place : position.OnMap ∨ other position

theorem Position.OnMap.onMapOr {position : Position} (onMap : position.OnMap)
    (other : Position → Prop) : position.OnMapOr other where
  height := onMap.1 position.z (by simp)
  direction := onMap.1 position.o (by simp)
  place := .inl onMap

theorem Position.OnMapOr.mono {position : Position} {other wider : Position → Prop}
    (onMapOr : position.OnMapOr other) (le : ∀ point, other point → wider point) :
    position.OnMapOr wider :=
  ⟨onMapOr.height, onMapOr.direction, onMapOr.place.imp_right (le position)⟩

theorem Effect.point?_placed {effect : Effect} {guid : Guid} {point : Position}
    (places : effect.placed? = some (guid, point)) : effect.point? = some point := by
  cases effect <;> cases places <;> rfl

theorem Effect.point?_made {effect : Effect} {world : World} {made : Entity}
    (makes : effect.made? world = some made) : effect.point? = some made.position := by
  cases effect <;> cases makes
  rfl

namespace World

def OnMapOr (world : World) (other : Position → Prop) : Prop :=
  ∀ guid position, world.positionOf? guid = some position → position.OnMapOr other

variable {world next : World} {other wider : Position → Prop}

theorem OnMapOr.mono (onMapOr : world.OnMapOr other) (le : ∀ point, other point → wider point) :
    world.OnMapOr wider :=
  fun guid position there => (onMapOr guid position there).mono le

-- Whoever an effect puts somewhere is where the effect says, and all others are where they were.
theorem OnMapOr.apply {effect : Effect} (onMapOr : world.OnMapOr other)
    (applied : world.apply effect = (.ok (), next))
    (puts : ∀ point, effect.point? = some point → point.OnMapOr other) : next.OnMapOr other := by
  have framed := apply_framed applied
  intro guid position found
  obtain ⟨entity, present, rfl⟩ := Option.map_eq_some_iff.mp found
  by_cases new : ∃ made, effect.made? world = some made ∧ guid = made.guid
  · obtain ⟨made, makes, rfl⟩ := new
    obtain rfl : made = entity := Option.some.inj ((framed.made made makes).symm.trans present)
    exact puts _ (Effect.point?_made makes)
  · rw [framed.kept guid fun made makes same => new ⟨made, makes, same⟩] at present
    obtain ⟨former, known, rfl⟩ := Option.map_eq_some_iff.mp present
    have before := onMapOr guid former.position (by simp [positionOf?, known])
    show (told effect.placed? guid former.position).OnMapOr other
    cases places : effect.placed? with
    | none => exact before
    | some news =>
        obtain ⟨named, point⟩ := news
        unfold told
        dsimp only
        split
        · exact puts point (Effect.point?_placed places)
        · exact before

end World

section

variable {texts : Texts} {draws spare : Draws} {other : Position → Prop}

-- A turn puts somebody on the map, or where somebody is already, or it strays.
theorem Turn.Moves.onMapOr {turn : Turn} {effect : Effect} {next : World}
    (moves : turn.Moves texts draws effect next) (grounded : turn.instruction.Grounded)
    (onMapOr : turn.world.OnMapOr other) :
    next.OnMapOr fun point => other point ∨ turn.MovesDynamically texts draws point := by
  have wider : turn.world.OnMapOr fun point => other point ∨ turn.MovesDynamically texts draws point :=
    onMapOr.mono fun _ => .inl
  refine wider.apply moves.2 fun point puts => ?_
  obtain ⟨given, _, reaches⟩ :=
    turn.instruction.request?_reaches turn.action.roles turn.world texts draws moves.1 puts
  cases reaches with
  | own onMap => exact (onMap grounded).onMapOr _
  | place there => exact wider _ _ there
  | around command away there height direction =>
      have center := wider _ _ there
      exact ⟨height ▸ center.height, direction ▸ center.direction,
        .inr (.inr ⟨_, _, effect, next, command, away, moves, puts⟩)⟩

theorem Retraces.onMapOr {before after : World} {turns : List Turn} {accepted : List Effect}
    (retraces : Retraces texts before draws turns accepted after spare)
    (grounded : ∀ turn ∈ turns, turn.instruction.Grounded) (onMapOr : before.OnMapOr other) :
    after.OnMapOr fun point => other point ∨ MovedDynamically texts draws turns point := by
  -- The places that are known become more with every turn that strays.
  induction retraces generalizing other with
  | done => exact onMapOr.mono fun _ => .inl
  | rests _ _ ih =>
      exact (ih (List.forall_mem_cons.mp grounded).2 onMapOr).mono fun _ => Or.imp_right .inr
  | moves moves _ ih =>
      obtain ⟨own, others⟩ := List.forall_mem_cons.mp grounded
      exact (ih others (moves.onMapOr own onMapOr)).mono fun _ => or_assoc.mp

end

namespace Action

variable (action : Action) (now : UInt64) (texts : Texts)

-- The commands that are run are the first of those that remain, and the others are left to wait, if
-- any of them are.
theorem runRest_splits (rest : List Instruction) (world : World) (draws : Draws) :
    let run := action.runRest now texts rest world draws
    ∃ left, run.turns.map Turn.instruction ++ left = rest ∧
      ∀ entry ∈ run.ending.left, entry.2.rest = left := by
  induction rest generalizing world draws with
  | nil => exact ⟨[], rfl, by simp [runRest, Ending.left]⟩
  | cons instruction rest ih =>
      rcases action.command_cases now texts instruction world draws with early | ⟨reached,
        ⟨gone, absent⟩ | ⟨present, done, left, executed, terminate | proceed⟩⟩
      · rw [action.runRest_early early]
        exact ⟨instruction :: rest, rfl, by simp [Ending.left]⟩
      · rw [action.runRest_absent reached absent]
        exact ⟨instruction :: rest, rfl, by simp [Ending.left]⟩
      · rw [action.runRest_terminate reached present executed terminate]
        exact ⟨rest, rfl, by simp [Ending.left]⟩
      · rw [action.runRest_proceed reached present executed proceed]
        obtain ⟨remaining, split, waiting⟩ := ih done.world left
        exact ⟨remaining, congrArg (List.cons instruction) split, waiting⟩

end Action

namespace Engine

/-- Every command that is still to be run in the engine is sound. -/
def Holds (engine : Engine) (sound : Instruction → Prop) : Prop :=
  ∀ action ∈ engine.actions, ∀ instruction ∈ action.rest, sound instruction

variable {engine : Engine} {agenda : Agenda Action} {sound : Instruction → Prop}

theorem holds_iff (represents : engine.schedule.Represents agenda) :
    engine.Holds sound ↔ ∀ entry ∈ agenda, ∀ instruction ∈ entry.2.rest, sound instruction := by
  have actions : engine.actions = agenda.map Prod.snd := represents.pending
  rw [Holds, actions, List.forall_mem_map]

-- An update runs commands that waited in the engine, and leaves others of them to wait.
theorem Holds.update (represents : engine.schedule.Represents agenda) (holds : engine.Holds sound)
    (now : UInt64) (world : World) (texts : Texts) :
    let run := engine.update now world texts
    (∀ turn ∈ run.turns, sound turn.instruction) ∧ run.engine.Holds sound := by
  rw [holds_iff represents] at holds
  refine update_induction (motive := fun _ agenda _ run =>
    (∀ entry ∈ agenda, ∀ instruction ∈ entry.2.rest, sound instruction) →
      (∀ turn ∈ run.turns, sound turn.instruction) ∧ run.engine.Holds sound)
    ?_ ?_ represents world holds
  · intro engine agenda world represents _ holds
    exact ⟨by simp [EngineRun.turns], (holds_iff represents).mpr holds⟩
  · intro engine schedule before due action after world _ _ _ run next later further holds
    obtain ⟨own, others⟩ := List.forall_mem_cons.mp fun entry member =>
      holds entry (List.perm_middle.mem_iff.mpr member)
    obtain ⟨left, split, waiting⟩ :=
      action.runRest_splits now texts action.rest world engine.draws
    rw [← split] at own
    obtain ⟨turns, holds⟩ := further fun entry member => by
      rcases List.mem_append.mp member with other | kept
      · exact others entry other
      · rw [waiting entry kept]
        exact fun instruction member => own instruction (List.mem_append_right _ member)
    refine ⟨fun turn member => ?_, holds⟩
    rcases List.mem_append.mp (show turn ∈ run.turns ++ later.turns from member) with first | last
    · exact own _ (List.mem_append_left _ (List.mem_map_of_mem first))
    · exact turns turn last

def updates (engine : Engine) (world : World) (texts : Texts) : List UInt64 → EngineRun
  | [] => { engine, world }
  | now :: times =>
      let first := engine.update now world texts
      first.andThen (first.engine.updates first.world texts times)

variable {world : World}

theorem updates_retraces (attainable : engine.Attainable) (world : World) (texts : Texts)
    (times : List UInt64) :
    let run := engine.updates world texts times
    ∃ accepted,
      Retraces texts world engine.draws run.turns accepted run.world run.engine.draws := by
  induction times generalizing engine world with
  | nil => exact ⟨[], .done⟩
  | cons now times ih =>
      obtain ⟨agenda, represents⟩ := attainable.represents
      obtain ⟨accepted, first⟩ := update_retraces represents now world texts
      obtain ⟨further, rest⟩ := ih (.update now world texts attainable)
        (engine.update now world texts).world
      refine ⟨accepted ++ further, ?_⟩
      rw [updates, EngineRun.turns_andThen]
      exact first.append rest

theorem Holds.updates (attainable : engine.Attainable) (holds : engine.Holds sound) (world : World)
    (texts : Texts) (times : List UInt64) :
    ∀ turn ∈ (engine.updates world texts times).turns, sound turn.instruction := by
  induction times generalizing engine world with
  | nil => simp [Engine.updates, EngineRun.turns]
  | cons now times ih =>
      obtain ⟨agenda, represents⟩ := attainable.represents
      obtain ⟨first, left⟩ := holds.update represents now world texts
      rw [Engine.updates, EngineRun.turns_andThen]
      intro turn member
      rcases List.mem_append.mp member with early | late
      · exact first turn early
      · exact ih (.update now world texts attainable) left _ turn late

/-- Commands that were read from rows keep everybody on the map, unless a dynamic move that keeps a
distance puts somebody elsewhere. However often the engine is updated, everybody is on the map or at a
point that such a move of these updates has computed, and the height and the direction are finite there.
Without such a move, all stay on the map. -/
theorem updates_onMapOr (attainable : engine.Attainable)
    (decoded : engine.Holds Instruction.Decoded)
    (onMap : ∀ guid position, world.positionOf? guid = some position → position.OnMap)
    (texts : Texts) (times : List UInt64) :
    let run := engine.updates world texts times
    (∀ guid position, run.world.positionOf? guid = some position →
      position.z.isFinite = true ∧ position.o.isFinite = true ∧
        (position.OnMap ∨ MovedDynamically texts engine.draws run.turns position)) ∧
      (engine.Holds (fun instruction => ∀ maxDistance minDistance,
          instruction.command = .moveDynamic maxDistance minDistance → maxDistance = 0) →
        ∀ guid position, run.world.positionOf? guid = some position → position.OnMap) := by
  intro run
  have grounded : engine.Holds Instruction.Grounded :=
    fun action member instruction waits => (decoded action member instruction waits).grounded
  have before : world.OnMapOr fun _ => False :=
    fun guid position there => (onMap guid position there).onMapOr _
  obtain ⟨accepted, retraces⟩ := updates_retraces attainable world texts times
  have after := retraces.onMapOr (grounded.updates attainable world texts times) before
  have places : ∀ guid position, run.world.positionOf? guid = some position →
      position.OnMap ∨ MovedDynamically texts engine.draws run.turns position := by
    intro guid position there
    exact (after guid position there).place.imp_right fun known => known.resolve_left id
  refine ⟨fun guid position there => ?_, fun still guid position there => ?_⟩
  · have onMapOr := after guid position there
    exact ⟨onMapOr.height, onMapOr.direction, places guid position there⟩
  · refine (places guid position there).resolve_right fun moved => ?_
    obtain ⟨turn, member, maxDistance, minDistance, command, away⟩ := moved.command
    exact away (still.updates attainable world texts times turn member _ _ command)

def dynamicRow (distance : UInt32) : Row :=
  { id := 7, command := 37, datalong := distance, datalong2 := distance, dataFlags := 8 }

def dynamicMove (distance : UInt32) : Instruction where
  key := 7
  delay := 0
  command := .moveDynamic distance distance
  position := {}
  buddy := ⟨0, 0, .creature⟩
  flags := { additional := true }

def nearEdge : World :=
  ({} : World).spawn .creature 20 { x := 17000 }

theorem nearEdge_onMap (guid : Guid) (position : Position)
    (there : nearEdge.positionOf? guid = some position) : position.OnMap := by
  rw [nearEdge, World.positionOf?, World.entity?_spawn] at there
  split at there
  · cases there
    rw [← Position.onMap_iff]
    decide +kernel
  · cases there

def dynamicAction (distance : UInt32) : Action where
  id := 0
  table := .event
  key := 7
  roles := ⟨some (.creature 20 1), some (.creature 20 1)⟩
  owner := none
  startedAt := 0
  rest := [dynamicMove distance]

def dynamicEngine (distance : UInt32) : Engine :=
  ((default : Engine).fire .event 7 [dynamicMove distance] (dynamicAction distance).roles 0 nearEdge).value.2

theorem dynamicEngine_attainable (distance : UInt32) : (dynamicEngine distance).Attainable :=
  .fire _ _ _ _ _ _ (.new _)

theorem dynamicEngine_tracks (distance : UInt32) :
    (dynamicEngine distance).Tracks [(0, dynamicAction distance)] := by
  have empty : (default : Engine).Tracks [] := ⟨Schedule.represents_empty 64, rfl, by simp⟩
  have prepared : (default : Engine).prepare .event 7 [dynamicMove distance]
      (dynamicAction distance).roles 0 nearEdge = dynamicAction distance := by cbv
  have tracks := empty.fire .event 7 [dynamicMove distance] (dynamicAction distance).roles 0 nearEdge
    (show _ = some 0 by cbv)
  rw [prepared] at tracks
  exact tracks

theorem dynamicEngine_holds {distance : UInt32} {sound : Instruction → Prop} :
    (dynamicEngine distance).Holds sound ↔ sound (dynamicMove distance) := by
  rw [holds_iff (dynamicEngine_tracks distance).schedule]
  simp [dynamicAction]

theorem dynamicEngine_decoded {distance : UInt32}
    (read : (dynamicRow distance).decode {} = .ok (dynamicMove distance)) :
    (dynamicEngine distance).Holds Instruction.Decoded :=
  dynamicEngine_holds.mpr ⟨dynamicRow distance, {}, read⟩

theorem dynamicEngine_reaches :
    ((dynamicEngine 1000).update 10 nearEdge {}).world.positionOf? (.creature 20 1) =
      some { x := 18000 } := by
  rw [((dynamicEngine_tracks 1000).update_single 10 nearEdge {}).world]
  decide +kernel

theorem position_offMap : ¬ Position.OnMap { x := 18000 } := by
  rw [← Position.onMap_iff]
  decide +kernel

-- A dynamic move from close to the edge leads over it.
theorem dynamicEngine_offMap :
    (dynamicEngine 1000).Attainable ∧ (dynamicEngine 1000).Holds Instruction.Decoded ∧
      (∀ guid position, nearEdge.positionOf? guid = some position → position.OnMap) ∧
      ¬ ∀ guid position,
        ((dynamicEngine 1000).update 10 nearEdge {}).world.positionOf? guid = some position →
          position.OnMap := by
  refine ⟨dynamicEngine_attainable 1000, dynamicEngine_decoded rfl, nearEdge_onMap, fun onMap => ?_⟩
  exact position_offMap (onMap _ _ dynamicEngine_reaches)

-- With a distance of zero, a dynamic move ends where the target is.
theorem dynamicEngine_onMapOr :
    (dynamicEngine 1000).Attainable ∧ (dynamicEngine 1000).Holds Instruction.Decoded ∧
      (∀ guid position, nearEdge.positionOf? guid = some position → position.OnMap) ∧
      MovedDynamically {} (dynamicEngine 1000).draws ((dynamicEngine 1000).updates nearEdge {} [10]).turns
        { x := 18000 } ∧
      ∀ guid position,
        ((dynamicEngine 0).updates nearEdge {} [10, 20]).world.positionOf? guid = some position →
          position.OnMap := by
  have attainable := dynamicEngine_attainable 1000
  have decoded : (dynamicEngine 1000).Holds Instruction.Decoded := dynamicEngine_decoded rfl
  refine ⟨attainable, decoded, nearEdge_onMap, ?_, ?_⟩
  · have onMapOr := (updates_onMapOr attainable decoded nearEdge_onMap {} [10]).1
    exact (onMapOr _ _ dynamicEngine_reaches).2.2.resolve_left position_offMap
  · refine (updates_onMapOr (dynamicEngine_attainable 0) (dynamicEngine_decoded rfl) nearEdge_onMap {}
      [10, 20]).2 (dynamicEngine_holds.mpr ?_)
    intro maxDistance minDistance command
    cases command
    rfl

end Engine

end WorldScripts
