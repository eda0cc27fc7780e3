import WorldScripts.Proofs.World.Freshness

/-!
What an effect changes. Whether it puts somebody elsewhere, turns a life state, writes a field or adds
a creature can be told from the effect alone. An effect that is accepted changes just that, and is
recorded; one that is refused changes nothing.
-/

namespace WorldScripts

def told {κ α : Type} [DecidableEq κ] (news : Option (κ × α)) (key : κ) (old : α) : α :=
  match news with
  | some (named, value) => if key = named then value else old
  | none => old

namespace Effect

def placed? : Effect → Option (Guid × Position)
  | .moveTo entity destination _ => some (entity, destination)
  | .teleport player _ destination => some (player, destination)
  | _ => none

def turned? : Effect → Option (Guid × LifeState)
  | .despawn entity _ => some (entity, .despawned)
  | .despawnGameObject object => some (object, .despawned)
  | .respawnGameObject object _ | .resetGameObject object => some (object, .alive)
  | .respawn creature => some (creature, .alive)
  | _ => none

def written? (world : World) : Effect → Option ((Guid × UInt32) × UInt32)
  | .setField entity field value => some ((entity, field), value)
  | .changeFlag true entity field mask => some ((entity, field), world.field entity field ||| mask)
  | .changeFlag false entity field mask =>
      some ((entity, field), world.field entity field &&& ~~~mask)
  | _ => none

def made? (world : World) : Effect → Option Entity
  | .summon _ entry position .. =>
      some { guid := ⟨.creature, entry, world.freshCounter⟩, position, state := .alive }
  | _ => none

end Effect

namespace World

/-- There is an entity under the guid, in whatever state. -/
def Has (world : World) (guid : Guid) : Prop :=
  (world.entity? guid).isSome = true

/-- No entity has a counter that is still to be given out. -/
def Numbered (world : World) : Prop :=
  ∀ guid, world.Has guid → guid.counter < world.nextCounter

/-- What becomes of a world when it accepts an effect. -/
structure Framed (world : World) (effect : Effect) (after : World) : Prop where
  recorded : after.effects = world.effects ++ [effect]
  conditions : after.conditions = world.conditions
  failingSpells : after.failingSpells = world.failingSpells
  counter : after.nextCounter =
    if effect.isSummon then world.freshCounter + 1 else world.nextCounter
  fields : ∀ guid number, after.field guid number =
    told (effect.written? world) (guid, number) (world.field guid number)
  -- Nobody has more changed than the place and the life state, and nobody is gone.
  kept : ∀ guid, (∀ made, effect.made? world = some made → guid ≠ made.guid) →
    after.entity? guid = (world.entity? guid).map fun entity =>
      { entity with
        position := told effect.placed? guid entity.position
        state := told effect.turned? guid entity.state }
  placed : ∀ guid position, effect.placed? = some (guid, position) →
    ∃ entity, after.entity? guid = some entity ∧ entity.position = position
  turned : ∀ guid state, effect.turned? = some (guid, state) →
    ∃ entity, after.entity? guid = some entity ∧ entity.state = state
  made : ∀ made, effect.made? world = some made → after.entity? made.guid = some made
  -- What is made takes nobody's place, unless somebody has a counter that is still to be given out.
  unused : world.Numbered → ∀ made, effect.made? world = some made → ¬ world.Has made.guid

variable {world after : World} {effect : Effect} {guid : Guid}

theorem field_setField (world : World) (named guid : Guid) (field number value : UInt32) :
    (world.setField named field value).field guid number =
      told (some ((named, field), value)) (guid, number) (world.field guid number) := by
  unfold setField World.field told
  rw [OrderedMap.find?_insert_ite]
  dsimp only
  split <;> rfl

theorem field_alter (world : World) (effect : Effect) (guid : Guid) (number : UInt32) :
    (world.alter effect).field guid number =
      told (effect.written? world) (guid, number) (world.field guid number) := by
  cases effect with
  | setField entity field value => exact field_setField world _ _ _ _ _
  | changeFlag set entity field mask => cases set <;> exact field_setField world _ _ _ _ _
  | _ => rfl

-- Apart from an entity that is made, nobody has more changed than the place and the life state.
theorem entity?_alter (other : ∀ made, effect.made? world = some made → guid ≠ made.guid) :
    (world.alter effect).entity? guid = (world.entity? guid).map fun entity =>
      { entity with
        position := told effect.placed? guid entity.position
        state := told effect.turned? guid entity.state } := by
  cases effect with
  | changeFlag set entity field mask => cases set <;> exact Option.map_id'.symm
  | moveTo | teleport | despawn | despawnGameObject | respawnGameObject | resetGameObject
  | respawn =>
      refine (entity?_modify world _ guid _).trans (congrArg (Option.map · _) (funext fun entity => ?_))
      dsimp only [told, Effect.placed?, Effect.turned?]
      split <;> rfl
  | summon summoner entry position delay active =>
      have different : guid ≠ world.freshGuid .creature entry := other _ rfl
      refine (entity?_spawn world _ _ _ guid).trans ?_
      rw [if_neg different]
      exact Option.map_id'.symm
  | _ => exact Option.map_id'.symm

theorem entity?_made {made : Entity} (makes : effect.made? world = some made) :
    (world.alter effect).entity? made.guid = some made := by
  cases effect <;> cases makes
  exact (entity?_spawn world _ _ _ _).trans (if_pos rfl)

theorem le_max_word (a b : UInt32) : a ≤ max a b ∧ b ≤ max a b := by
  show a ≤ (if a ≤ b then b else a) ∧ b ≤ if a ≤ b then b else a
  grind

theorem Numbered.unused (numbered : world.Numbered) {made : Entity}
    (makes : effect.made? world = some made) : ¬ world.Has made.guid := by
  intro known
  have below := numbered _ known
  cases effect <;> cases makes
  exact UInt32.not_le.mpr below (le_max_word world.nextCounter 1).1

theorem conditions_alter (world : World) (effect : Effect) :
    (world.alter effect).conditions = world.conditions ∧
      (world.alter effect).failingSpells = world.failingSpells := by
  cases effect with
  | changeFlag set entity field mask => cases set <;> exact ⟨rfl, rfl⟩
  | _ => exact ⟨rfl, rfl⟩

theorem entity?_of_needs (accepted : world.refusal? effect = none) {need : Need}
    (needed : need ∈ effect.needs) : ∃ entity, world.entity? need.guid = some entity := by
  rw [refusal?, Option.or_eq_none_iff, List.findSome?_eq_none_iff] at accepted
  obtain ⟨entity, known, _⟩ := entity?_of_refuses? (accepted.1 need needed)
  exact ⟨entity, known⟩

theorem needs_of_changed (world : World) (changed : effect.placed?.map Prod.fst = some guid ∨
      effect.turned?.map Prod.fst = some guid) :
    effect.made? world = none ∧ ∃ need ∈ effect.needs, need.guid = guid := by
  rcases changed with places | turns
  · cases effect <;> cases places <;> exact ⟨rfl, _, List.mem_singleton_self _, rfl⟩
  · cases effect <;> cases turns <;> exact ⟨rfl, _, List.mem_singleton_self _, rfl⟩

theorem exists_altered (accepted : world.refusal? effect = none)
    (changed : effect.placed?.map Prod.fst = some guid ∨
      effect.turned?.map Prod.fst = some guid) :
    ∃ entity, (world.alter effect).entity? guid = some entity ∧
      ∃ former : Entity, entity.position = told effect.placed? guid former.position ∧
        entity.state = told effect.turned? guid former.state := by
  obtain ⟨nobody, need, needed, rfl⟩ := needs_of_changed world changed
  obtain ⟨former, known⟩ := entity?_of_needs accepted needed
  refine ⟨_, (entity?_alter ?_).trans (congrArg _ known), former, rfl, rfl⟩
  intro made makes
  rw [nobody] at makes
  cases makes

theorem apply_framed (applied : world.apply effect = (.ok (), after)) : world.Framed effect after := by
  obtain ⟨accepted, rfl⟩ := apply_eq_ok.mp applied
  obtain ⟨conditions, failingSpells⟩ := conditions_alter world effect
  -- Recording the effect changes nothing but the record.
  exact {
    recorded := effects_apply applied
    conditions := conditions
    failingSpells := failingSpells
    counter := nextCounter_alter world effect
    fields := field_alter world effect
    kept := fun guid other => entity?_alter other
    placed := by
      intro guid position places
      obtain ⟨entity, found, former, same, _⟩ :=
        exists_altered accepted (.inl (congrArg (Option.map Prod.fst) places))
      exact ⟨entity, found, by rw [same, places, told, if_pos rfl]⟩
    turned := by
      intro guid state turns
      obtain ⟨entity, found, former, _, same⟩ :=
        exists_altered accepted (.inr (congrArg (Option.map Prod.fst) turns))
      exact ⟨entity, found, by rw [same, turns, told, if_pos rfl]⟩
    made := fun made makes => entity?_made makes
    unused := fun numbered made makes => numbered.unused makes }

end World

end WorldScripts
