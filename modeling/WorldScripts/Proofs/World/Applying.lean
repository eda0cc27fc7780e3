import WorldScripts.World.Apply

/-!
What comes of applying an effect. Every effect looks at the entities that it needs before it changes anything,
so that it either fails and leaves the world as it was, or changes what it is about and is recorded.
-/

namespace WorldScripts

/-- An entity that has to be there and, for some effects, has to be capable of a deed. -/
structure Need where
  guid : Guid
  deed : Option Deed := none
  deriving DecidableEq

namespace Effect

-- The entities an effect needs, in the order in which they are looked at.
def needs : Effect → List Need
  | .castSpell caster target .. => [⟨caster, none⟩, ⟨target, none⟩]
  | .teleport player .. => [⟨player, some .teleport⟩]
  | .despawnGameObject object => [⟨object, some .despawnAsObject⟩]
  | .respawnGameObject object _ | .resetGameObject object => [⟨object, some .respawnAsObject⟩]
  | .respawn creature => [⟨creature, some .respawnAsCreature⟩]
  | .useDoor object .. | .activateObject object _ | .lockGameObject object _ =>
      [⟨object, some .actAsObject⟩]
  | .failQuest player _ | .exploreArea player _ | .killCredit player .. | .createItem player ..
  | .playMovie player _ | .sendTaxiPath player _ | .sendMail _ player .. =>
      [⟨player, some .receivePlayerEffects⟩]
  | .updateTemplate creature .. => [⟨creature, some .changeTemplate⟩]
  | .summon entity .. | .setField entity .. | .changeFlag _ entity .. | .moveTo entity ..
  | .despawn entity _ | .say entity .. | .emote entity _ | .playSound entity .. | .removeAura entity _
  | .setMovement entity .. | .setActive entity _ | .setFaction entity _ | .changeDisplay _ entity _
  | .setRun entity _ | .attack entity _ | .standState entity _ | .modifyNpcFlags entity ..
  | .shiftWaypointWait entity _ | .pauseWaypoints entity _ | .sendAiEvent entity ..
  | .setFacing entity _ | .setFly entity .. | .setEquipment entity .. => [⟨entity, none⟩]

end Effect

namespace World

def refuses? (world : World) (need : Need) : Option EffectError :=
  match world.entity? need.guid with
  | none => some (.entityNotFound need.guid)
  | some entity => need.deed.bind fun deed =>
      if entity.guid.kind = deed.kind then none else some (.unsupported need.guid deed)

-- A spell that is bound to fail, when the effect casts one.
def failure? (world : World) : Effect → Option EffectError
  | .castSpell _ _ spell .. =>
      if world.failingSpells.contains spell then some (.spellFailed spell) else none
  | _ => none

/-- The first reason against an effect. -/
def refusal? (world : World) (effect : Effect) : Option EffectError :=
  (effect.needs.findSome? world.refuses?).or (world.failure? effect)

/-- What an effect changes, apart from the record. -/
def alter (world : World) : Effect → World
  | .setField entity field value => world.setField entity field value
  | .changeFlag true entity field mask =>
      world.setField entity field (world.field entity field ||| mask)
  | .changeFlag false entity field mask =>
      world.setField entity field (world.field entity field &&& ~~~mask)
  | .moveTo entity destination _ => world.setPosition entity destination
  | .teleport player _ destination => world.setPosition player destination
  | .summon _ creature position .. => world.spawn .creature creature position
  | .despawn entity _ => world.setState entity .despawned
  | .despawnGameObject object => world.setState object .despawned
  | .respawnGameObject object _ | .resetGameObject object => world.setState object .alive
  | .respawn creature => world.setState creature .alive
  | _ => world

end World

def World.news (world : World) : Effect → List LogLine
  | .summon _ creature .. => [.debug s!"summoned {world.freshGuid .creature creature}"]
  | .updateTemplate creature entry _ => (world.entity? creature).toList.map fun entity =>
      let changed : Guid := ⟨entity.guid.kind, entry, entity.guid.counter⟩
      .debug s!"{creature} now uses template {entry} ({changed})"
  | _ => []

namespace ApplyM

variable {α : Type} (guid : Guid) (deed : Deed) (state : ApplyState)

theorem require_bind (next : Entity → ApplyM α) :
    (require guid >>= next) state =
      match state.world.entity? guid with
      | some entity => next entity state
      | none => .error (.entityNotFound guid) state := by
  simp only [require, world, bind, EStateM.bind]
  cases state.world.entity? guid <;> rfl

theorem requireKind_eq :
    requireKind guid deed state =
      match state.world.refuses? ⟨guid, some deed⟩ with
      | some error => .error error state
      | none => .ok () state := by
  rw [requireKind, require_bind, World.refuses?]
  cases state.world.entity? guid with
  | none => rfl
  | some entity =>
      by_cases able : entity.guid.kind = deed.kind
      · simp only [able, Option.bind_some, ne_eq, not_true_eq_false, if_false, if_true]
        rfl
      · simp only [able, Option.bind_some, ne_eq, not_false_eq_true, if_true, if_false]
        rfl

theorem requireKind_bind (next : Unit → ApplyM α) :
    (requireKind guid deed >>= next) state =
      match state.world.refuses? ⟨guid, some deed⟩ with
      | some error => .error error state
      | none => next () state := by
  show EStateM.bind _ _ state = _
  rw [EStateM.bind, requireKind_eq]
  cases state.world.refuses? ⟨guid, some deed⟩ <;> rfl

end ApplyM

namespace World

variable {world : World} {effect : Effect} {need : Need}

theorem entity?_of_refuses? (willing : world.refuses? need = none) :
    ∃ entity, world.entity? need.guid = some entity ∧
      ∀ deed, need.deed = some deed → entity.guid.kind = deed.kind := by
  unfold refuses? at willing
  cases found : world.entity? need.guid with
  | none => simp [found] at willing
  | some entity =>
      refine ⟨entity, rfl, fun deed asked => ?_⟩
      simpa [found, asked] using willing

end World

namespace Effect

open ApplyM

variable (effect : Effect) (world : World) (log : List LogLine)

-- An effect fails before it has changed anything, or it changes what it is about.
theorem perform_eq :
    effect.perform ⟨world, log⟩ =
      match world.refusal? effect with
      | some error => .error error ⟨world, log⟩
      | none => .ok () ⟨world.alter effect, log ++ world.news effect⟩ := by
  cases effect with
  | castSpell caster target spell triggered additional =>
      simp only [perform, require_bind, World.refusal?, needs, World.failure?, World.refuses?,
        List.findSome?_cons, List.findSome?_nil, World.news, List.append_nil]
      cases world.entity? caster with
      | none => rfl
      | some _ =>
          cases world.entity? target with
          | none => rfl
          | some _ =>
              show (if world.failingSpells.contains spell = true then fail (.spellFailed spell)
                else pure () : ApplyM Unit) ⟨world, log⟩ = _
              by_cases fails : world.failingSpells.contains spell = true
              · simp only [fails, if_true]
                rfl
              · simp only [fails]
                rfl
  | summon summoner creature position =>
      simp only [perform, require_bind, World.refusal?, needs, World.failure?,
        List.findSome?_singleton, Option.or_none, World.refuses?]
      cases world.entity? summoner <;> rfl
  | updateTemplate creature entry =>
      simp only [perform, requireKind_bind, require_bind, World.refusal?, needs, World.failure?,
        List.findSome?_singleton, Option.or_none]
      cases willing : world.refuses? ⟨creature, some .changeTemplate⟩ with
      | some error => rfl
      | none =>
          obtain ⟨entity, found, _⟩ := World.entity?_of_refuses? willing
          simp only [World.news, found]
          rfl
  | changeFlag set =>
      cases set <;>
      · simp only [perform, require_bind, World.refusal?, needs, World.failure?,
          List.findSome?_singleton, Option.or_none, World.refuses?, World.news, List.append_nil]
        generalize world.entity? _ = found
        cases found <;> rfl
  | teleport | despawnGameObject | respawnGameObject | resetGameObject | respawn =>
      simp only [perform, requireKind_bind, require_bind, World.refusal?, needs, World.failure?,
        List.findSome?_singleton, Option.or_none, World.news, List.append_nil]
      generalize willing : world.refuses? _ = told
      cases told with
      | some error => rfl
      | none =>
          -- Whoever is of the right kind is there, so that the second look at the entity does not fail.
          obtain ⟨entity, found, _⟩ := World.entity?_of_refuses? willing
          simp only [found]
          rfl
  | useDoor | activateObject | lockGameObject | failQuest | exploreArea | killCredit | createItem
  | playMovie | sendTaxiPath | sendMail =>
      simp only [perform, requireKind_eq, World.refusal?, needs, World.failure?,
        List.findSome?_singleton, Option.or_none, World.news, List.append_nil]
      generalize world.refuses? _ = told
      cases told <;> rfl
  | _ =>
      simp only [perform, require_bind, World.refusal?, needs, World.failure?,
        List.findSome?_singleton, Option.or_none, World.refuses?, World.news, List.append_nil]
      generalize world.entity? _ = found
      cases found <;> rfl

end Effect

namespace World

variable {world changed : World} {effect : Effect} {refusal : EffectError}

theorem applying_eq (world : World) (effect : Effect) :
    world.applying effect =
      match world.refusal? effect with
      | some error => .error error ⟨world, []⟩
      | none => .ok () ⟨(world.alter effect).record effect, world.news effect⟩ := by
  show EStateM.bind effect.perform _ ⟨world, []⟩ = _
  rw [EStateM.bind, effect.perform_eq]
  cases world.refusal? effect <;> rfl

theorem apply_eq (world : World) (effect : Effect) :
    world.apply effect =
      match world.refusal? effect with
      | some error => (.error error, world)
      | none => (.ok (), (world.alter effect).record effect) := by
  rw [apply, applying_eq]
  cases world.refusal? effect <;> rfl

theorem apply_eq_ok : world.apply effect = (.ok (), changed) ↔
    world.refusal? effect = none ∧ changed = (world.alter effect).record effect := by
  rw [apply_eq]
  cases world.refusal? effect <;> simp [eq_comm]

theorem apply_eq_error : world.apply effect = (.error refusal, changed) ↔
    world.refusal? effect = some refusal ∧ changed = world := by
  rw [apply_eq]
  cases world.refusal? effect <;> simp [eq_comm]

theorem refuses_iff : (world.apply effect).1 = .error refusal ↔ world.refusal? effect = some refusal := by
  rw [apply_eq]
  cases world.refusal? effect <;> simp

theorem apply_cases (world : World) (effect : Effect) :
    (∃ refusal, world.refusal? effect = some refusal ∧ world.apply effect = (.error refusal, world)) ∨
      world.refusal? effect = none ∧
        world.apply effect = (.ok (), (world.alter effect).record effect) := by
  rw [apply_eq]
  cases world.refusal? effect with
  | some refusal => exact .inl ⟨refusal, rfl, rfl⟩
  | none => exact .inr ⟨rfl, rfl⟩

theorem remarks_of_accepted (accepted : world.refusal? effect = none) :
    world.remarks effect = world.news effect := by
  rw [remarks, applying_eq, accepted]

theorem remarks_of_refused (refused : world.refusal? effect = some refusal) :
    world.remarks effect = [] := by
  rw [remarks, applying_eq, refused]

end World

end WorldScripts
