import WorldScripts.Proofs.Engine.Session

/-!
What a session may do with an action once it has been fired. Its commands are executed in the order
of their delays, never before they are due and never while the source or the owner is missing; and
when the action has been closed, nothing of it is executed any more.
-/

namespace WorldScripts

/-- What the record tells of an action and its commands is in order. -/
structure Lawful (past : List Event) (action : Action) (commands : List Instruction) : Prop where
  first : ∀ before after, past = before ++ .fired action commands :: after →
    about action.id before = []
  order : ∃ sorted, StablySorted (fun instruction => instruction.delay.toNat) commands sorted ∧
    (turnsOf action.id past).map Turn.instruction <+: sorted
  due : ∀ turn ∈ turnsOf action.id past, action.dueAt turn.instruction ≤ turn.now.toNat
  present : ∀ turn ∈ turnsOf action.id past, ∀ guid, action.Needs guid → turn.world.Present guid
  closed : ∀ before event after, past = before ++ event :: after → event.id = action.id →
    event.Closes → turnsOf action.id after = []

section

variable {past : List Event} {agenda : Agenda Action} {fired : Nat}
variable {action : Action} {commands : List Instruction}

theorem turnsOf_append (id : Nat) (before after : List Event) :
    turnsOf id (before ++ after) = turnsOf id before ++ turnsOf id after := by
  rw [turnsOf, about_append, List.filterMap_append]
  rfl

theorem about_around {event : Event} {before after : List Event}
    (split : past = before ++ event :: after) :
    about event.id past = about event.id before ++ event :: about event.id after := by
  rw [split, about_append]
  simp [about]

theorem mem_about {event : Event} (member : event ∈ past) : event ∈ about event.id past :=
  List.mem_filter.mpr ⟨member, beq_iff_eq.mpr rfl⟩

/-- What is told of an action from the time it is fired; if it is closed, that comes last. -/
structure History (action : Action) (commands : List Instruction) (turns : List Turn)
    (closing : Option Event) (history : List Event) : Prop where
  told : history = .fired action commands :: (turns.map .executed ++ closing.toList)
  closes : ∀ event ∈ closing, event.Closes

theorem Standing.history {id : Nat} {history : List Event} {waiting : List Action}
    (standing : Standing id history waiting) (known : history ≠ []) :
    ∃ action commands turns left closing, action.id = id ∧ Progress action commands turns left ∧
      History action commands turns closing history ∧
      (closing = none → waiting = [{ action with rest := left }]) := by
  cases standing with
  | unknown => exact absurd rfl known
  | @underWay action commands turns left own progress =>
      refine ⟨action, commands, turns, left, none, own, progress, ⟨?_, ?_⟩, fun _ => rfl⟩
      · rw [Option.toList_none, List.append_nil]
      · intro event member
        cases member
  | @closed action commands turns left closing own progress closes =>
      refine ⟨action, commands, turns, left, some closing, own, progress, ⟨rfl, ?_⟩, ?_⟩
      · intro event member
        cases member
        exact closes
      · intro none
        cases none

section

variable {turns : List Turn} {closing : Option Event} {history : List Event}

theorem History.filterMap_turn (held : History action commands turns closing history) :
    history.filterMap Event.turn? = turns := by
  have executed : (turns.map Event.executed).filterMap Event.turn? = turns := by
    rw [List.filterMap_map]
    exact List.filterMap_some
  have none : closing.toList.filterMap Event.turn? = [] := by
    refine List.filterMap_eq_nil_iff.mpr ?_
    intro event member
    have closes := held.closes event (Option.mem_toList.mp member)
    cases event with
    | fired => exact closes.elim
    | executed => exact closes.elim
    | ended => rfl
    | cancelled => rfl
  rw [held.told, List.filterMap_cons_none (by rfl), List.filterMap_append, executed, none,
    List.append_nil]

theorem History.firing (held : History action commands turns closing history) {other : Action}
    {instructions : List Instruction} {before after : List Event}
    (split : history = before ++ .fired other instructions :: after) :
    before = [] ∧ other = action ∧ instructions = commands := by
  rw [held.told] at split
  cases before with
  | nil =>
      cases split
      exact ⟨rfl, rfl, rfl⟩
  | cons event before =>
      have later : .fired other instructions ∈ turns.map Event.executed ++ closing.toList := by
        rw [(List.cons.inj split).2]
        simp
      rcases List.mem_append.mp later with executed | closed
      · obtain ⟨turn, _, same⟩ := List.mem_map.mp executed
        cases same
      · exact (held.closes _ (Option.mem_toList.mp closed)).elim

theorem History.closed (held : History action commands turns closing history) {event : Event}
    {before after : List Event} (split : history = before ++ event :: after)
    (closes : event.Closes) : after = [] := by
  -- An event that closes the action is neither the firing nor an execution.
  have going : ∀ other ∈ Event.fired action commands :: turns.map Event.executed,
      ¬ other.Closes := by
    intro other member
    rcases List.mem_cons.mp member with rfl | executed
    · exact id
    · obtain ⟨turn, _, rfl⟩ := List.mem_map.mp executed
      exact id
  rw [held.told, ← List.cons_append] at split
  cases closing with
  | none =>
      rw [Option.toList_none, List.append_nil] at split
      exact absurd closes (going event (by rw [split]; simp))
  | some closing =>
      rcases List.eq_nil_or_concat after with empty | ⟨rest, last, more⟩
      · exact empty
      · rw [more, List.concat_eq_append, ← List.cons_append, ← List.append_assoc] at split
        have same := (List.append_inj' split rfl).1
        exact absurd closes (going event (by rw [same]; simp))

end

theorem Told.history (told : Told past agenda fired)
    (member : .fired action commands ∈ past) :
    ∃ turns left closing, Progress action commands turns left ∧
      History action commands turns closing (about action.id past) ∧
      (closing = none → agenda.waiting action.id = [{ action with rest := left }]) := by
  have inside : .fired action commands ∈ about action.id past := mem_about member
  obtain ⟨first, instructions, turns, left, closing, _, progress, history, waiting⟩ :=
    (told.standing action.id).history (List.ne_nil_of_mem inside)
  obtain ⟨before, after, split⟩ := List.append_of_mem inside
  obtain ⟨_, rfl, rfl⟩ := history.firing split
  exact ⟨turns, left, closing, progress, history, waiting⟩

theorem Told.lawful (told : Told past agenda fired) (member : .fired action commands ∈ past) :
    Lawful past action commands := by
  obtain ⟨turns, left, closing, progress, history, _⟩ := told.history member
  have executed : turnsOf action.id past = turns := history.filterMap_turn
  refine ⟨?_, ⟨_, progress.sorted, ?_⟩, ?_, ?_, ?_⟩
  · intro before after split
    exact (history.firing (about_around split)).1
  · rw [executed]
    exact List.prefix_append _ _
  · rw [executed]
    exact progress.due
  · rw [executed]
    exact progress.present
  · intro before event after split own closes
    rw [← own] at history ⊢
    have silent : about event.id after = [] := history.closed (about_around split) closes
    rw [turnsOf, silent, List.filterMap_nil]

theorem Told.fired_of_executed (told : Told past agenda fired) {turn : Turn}
    (member : .executed turn ∈ past) :
    ∃ action commands, .fired action commands ∈ past ∧ action.id = turn.action.id := by
  have inside : .executed turn ∈ about turn.action.id past := mem_about member
  obtain ⟨action, commands, turns, _, closing, own, _, history, _⟩ :=
    (told.standing turn.action.id).history (List.ne_nil_of_mem inside)
  refine ⟨action, commands, ?_, own⟩
  have first : .fired action commands ∈ about turn.action.id past := by
    rw [history.told]
    exact List.mem_cons_self
  exact (List.mem_filter.mp first).1

end

namespace Session

variable {session : Session} {action : Action} {commands : List Instruction}

-- Whoever cannot do without an entity is closed when scripts are cancelled for it.
theorem Sound.closed_of_cancel (sound : session.Sound) {guid : Guid}
    (member : .fired action commands ∈ session.past) (needs : action.Needs guid) :
    ∃ event ∈ (session.move (.cancelFor guid)).past, event.id = action.id ∧ event.Closes := by
  have moved : (session.move (.cancelFor guid)).Sound := sound.move trivial
  obtain ⟨_, kept, _⟩ := sound
  obtain ⟨agenda, keeps, told⟩ := moved
  have member := (past_move session (.cancelFor guid)).subset member
  obtain ⟨turns, left, closing, progress, history, waiting⟩ := told.history member
  cases closing with
  | none =>
      -- It would be waiting still, but none of the entity's actions is left.
      have waits : { action with rest := left } ∈ agenda.waiting action.id := by
        rw [waiting rfl]
        exact List.mem_singleton.mpr rfl
      have inside := (List.mem_filter.mp waits).1
      rw [← keeps.actions, show (session.move (.cancelFor guid)).engine.actions = _ from
        (kept.cancelFor guid).actions] at inside
      obtain ⟨entry, stays, same⟩ := List.mem_map.mp inside
      have involved : entry.2.involves guid = true := by
        rw [same]
        exact (Action.involves_iff action guid).mpr needs
      have spared := (List.mem_filter.mp stays).2
      rw [involved] at spared
      cases spared
  | some closing =>
      have last : closing ∈ about action.id (session.move (.cancelFor guid)).past := by
        rw [history.told]
        simp
      obtain ⟨inside, own⟩ := List.mem_filter.mp last
      exact ⟨closing, inside, beq_iff_eq.mp own, history.closes closing rfl⟩

theorem turnsOf_cancel (session : Session) (guid : Guid) (id : Nat) :
    turnsOf id (session.move (.cancelFor guid)).past = turnsOf id session.past := by
  have none : turnsOf id ((session.engine.schedule.cancelWhere (·.involves guid)).1.map
      Event.cancelled) = [] := by
    refine List.filterMap_eq_nil_iff.mpr ?_
    intro event member
    obtain ⟨action, _, rfl⟩ := List.mem_map.mp (List.mem_filter.mp member).1
    rfl
  rw [Session.move, turnsOf_append, none, List.append_nil]

theorem Sound.silent_of_cancel (sound : session.Sound) {guid : Guid} {later : List Move}
    (inTime : ∀ move ∈ later, move.InTime) (member : .fired action commands ∈ session.past)
    (needs : action.Needs guid) :
    turnsOf action.id (session.play (.cancelFor guid :: later)).past =
      turnsOf action.id session.past := by
  obtain ⟨event, inside, own, closes⟩ := sound.closed_of_cancel member needs
  have moved : (session.move (.cancelFor guid)).Sound := sound.move trivial
  obtain ⟨_, _, told⟩ := moved.play inTime
  obtain ⟨more, extended⟩ := past_play (session.move (.cancelFor guid)) later
  have lawful := told.lawful ((past_play session (.cancelFor guid :: later)).subset member)
  obtain ⟨before, after, split⟩ := List.append_of_mem inside
  -- The closing event stands before all that was recorded later.
  have parts : ((session.move (.cancelFor guid)).play later).past =
      before ++ event :: (after ++ more) := by
    rw [← extended, split, List.append_assoc, List.cons_append]
  have silent := lawful.closed before event (after ++ more) parts own closes
  rw [turnsOf_append, List.append_eq_nil_iff] at silent
  calc turnsOf action.id ((session.move (.cancelFor guid)).play later).past
      = turnsOf action.id (session.move (.cancelFor guid)).past := by
        rw [← extended, turnsOf_append, silent.2, List.append_nil]
    _ = turnsOf action.id session.past := turnsOf_cancel session guid action.id

theorem Sound.executed_move (sound : session.Sound) {move : Move} {turn : Turn}
    (member : .executed turn ∈ (session.move move).past) :
    .executed turn ∈ session.past ∨ ∃ texts, move = .update turn.now texts := by
  cases move with
  | fire table key commands roles now =>
      simp only [Session.move] at member
      split at member
      · exact Or.inl member
      · rcases List.mem_append.mp member with earlier | new
        · exact Or.inl earlier
        · cases List.mem_singleton.mp new
  | update now texts =>
      rcases List.mem_append.mp member with earlier | new
      · exact Or.inl earlier
      · obtain ⟨taken, inside, told⟩ := List.mem_flatMap.mp new
        obtain ⟨agenda, keeps, _⟩ := sound
        rw [keeps.executed_now now session.world texts taken inside turn (mem_happened.mp told)]
        exact Or.inr ⟨texts, rfl⟩
  | cancelFor guid =>
      rcases List.mem_append.mp member with earlier | new
      · exact Or.inl earlier
      · obtain ⟨action, _, same⟩ := List.mem_map.mp new
        cases same
  | edit world => exact Or.inl member

theorem Sound.executed_play (sound : session.Sound) {moves : List Move} {turn : Turn}
    (inTime : ∀ move ∈ moves, move.InTime)
    (member : .executed turn ∈ (session.play moves).past) :
    .executed turn ∈ session.past ∨ ∃ texts, .update turn.now texts ∈ moves := by
  induction moves generalizing session with
  | nil => exact Or.inl member
  | cons move rest ih =>
      have moved := sound.move (inTime move List.mem_cons_self)
      rcases ih moved (fun move inside => inTime move (List.mem_cons_of_mem _ inside)) member with
        earlier | ⟨texts, later⟩
      · rcases sound.executed_move earlier with before | ⟨texts, now⟩
        · exact Or.inl before
        · exact Or.inr ⟨texts, by rw [now]; exact List.mem_cons_self⟩
      · exact Or.inr ⟨texts, List.mem_cons_of_mem _ later⟩

/-- In every session whatever is executed is executed by an update at that time, for an action that
was fired; each such action is treated lawfully, and none of its commands is executed once scripts
have been cancelled for its source or its owner. -/
theorem play_lawful (draws : Draws) (world : World) (moves : List Move)
    (inTime : ∀ move ∈ moves, move.InTime) :
    (∀ turn, .executed turn ∈ ((start draws world).play moves).past →
      (∃ texts, .update turn.now texts ∈ moves) ∧
      ∃ action commands, .fired action commands ∈ ((start draws world).play moves).past ∧
        action.id = turn.action.id) ∧
    (∀ action commands, .fired action commands ∈ ((start draws world).play moves).past →
      Lawful ((start draws world).play moves).past action commands) ∧
    ∀ earlier guid later action commands, moves = earlier ++ .cancelFor guid :: later →
      .fired action commands ∈ ((start draws world).play earlier).past → action.Needs guid →
      turnsOf action.id ((start draws world).play moves).past =
        turnsOf action.id ((start draws world).play earlier).past := by
  have sound := sound_start draws world
  obtain ⟨agenda, _, told⟩ := sound.play inTime
  refine ⟨?_, fun action commands => told.lawful, ?_⟩
  · intro turn member
    refine ⟨?_, told.fired_of_executed member⟩
    rcases sound.executed_play inTime member with before | updated
    · cases before
    · exact updated
  intro earlier guid later action commands split member needs
  subst split
  have before := sound.play fun move inside => inTime move (List.mem_append_left _ inside)
  have after : ∀ move ∈ later, move.InTime := by
    intro move inside
    exact inTime move (List.mem_append_right _ (List.mem_cons_of_mem _ inside))
  rw [play, List.foldl_append]
  exact before.silent_of_cancel after member needs

-- Of three commands the first one is executed; then the source leaves the world and comes back.
def interrupted : List Move :=
  let source := Guid.creature 1 1
  let present : World := World.insert {} { guid := source }
  [.fire .event 7 [.emoteAfter 5, .emoteAfter 2, .emoteAfter 5] { source := source } 10,
    .edit present, .update 13 {}, .edit {}, .update 20 {}, .edit present, .update 30 {}]

theorem interrupted_lawful :
    let past := ((start default {}).play interrupted).past
    (∀ move ∈ interrupted, move.InTime) ∧ (about 0 past).length = 3 ∧
      (turnsOf 0 past).length = 1 ∧
      ∀ action commands, .fired action commands ∈ past → Lawful past action commands := by
  have inTime : ∀ move ∈ interrupted, move.InTime := by decide
  exact ⟨inTime, by cbv, by cbv, (play_lawful default {} interrupted inTime).2.1⟩

end Session

end WorldScripts
