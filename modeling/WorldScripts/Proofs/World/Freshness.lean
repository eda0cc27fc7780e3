import WorldScripts.Proofs.Scripts.Grouping
import WorldScripts.Proofs.World.Acceptance

/-!
Entities that are gone. An entity that was forgotten has a counter below those that the world gives
out from then on, and no effect adds an entity but a summoning, which takes such a counter. So nothing
a script does brings the entity back, as long as there are counters left.
-/

namespace WorldScripts

def Effect.isSummon : Effect → Bool
  | .summon .. => true
  | _ => false

namespace World

/-- The entity is not known, though its counter was given out. -/
structure Gone (world : World) (guid : Guid) : Prop where
  absent : world.entity? guid = none
  used : guid.counter < world.nextCounter

/-- The creatures summoned between two worlds have found counters left. -/
def CountersLast (before after : World) : Prop :=
  before.nextCounter.toNat +
    (after.effects.drop before.effects.length).countP Effect.isSummon < 0x100000000

instance (before after : World) : Decidable (CountersLast before after) :=
  inferInstanceAs (Decidable (_ < _))

variable {before middle after world changed : World} {effect : Effect} {guid : Guid}
variable {accepted further : List Effect}

theorem gone_remove (world : World) (used : guid.counter < world.nextCounter) :
    (world.remove guid).Gone guid := by
  refine ⟨?_, used⟩
  simp [remove, entity?, OrderedMap.find?_erase]

theorem entity?_modify (world : World) (named guid : Guid) (change : Entity → Entity) :
    (world.modify named change).entity? guid =
      (world.entity? guid).map fun entity => if guid = named then change entity else entity := by
  have same : rank guid = rank named ↔ guid = named := ⟨rank_inj, congrArg rank⟩
  unfold modify entity?
  rw [OrderedMap.find?_modify]
  simp only [same]
  split <;> simp

theorem entity?_insert (world : World) (entity : Entity) (guid : Guid) :
    (world.insert entity).entity? guid =
      if guid = entity.guid then some entity else world.entity? guid :=
  world.entities.find?_insert_ite entity.guid guid entity

theorem entity?_spawn (world : World) (kind : EntityKind) (entry : UInt32) (position : Position)
    (guid : Guid) :
    (world.spawn kind entry position).entity? guid =
      if guid = world.freshGuid kind entry then some { guid := world.freshGuid kind entry, position }
      else world.entity? guid :=
  world.entities.find?_insert_ite (world.freshGuid kind entry) guid _

theorem entity?_alter_none (absent : world.entity? guid = none)
    (fresh : effect.isSummon = true → guid.counter ≠ world.freshCounter) :
    (world.alter effect).entity? guid = none := by
  cases effect with
  | changeFlag set entity field mask => cases set <;> exact absent
  | moveTo | teleport | despawn | despawnGameObject | respawnGameObject | resetGameObject
  | respawn =>
      refine (entity?_modify world _ guid _).trans ?_
      rw [absent]
      rfl
  | summon summoner creature position delay active =>
      have other : guid ≠ world.freshGuid .creature creature :=
        fun same => fresh rfl (congrArg Guid.counter same)
      refine (entity?_spawn world _ _ _ guid).trans ?_
      rw [if_neg other]
      exact absent
  | _ => exact absent

theorem nextCounter_alter (world : World) (effect : Effect) :
    (world.alter effect).nextCounter =
      if effect.isSummon then world.freshCounter + 1 else world.nextCounter := by
  cases effect with
  | changeFlag set entity field mask => cases set <;> rfl
  | _ => rfl

theorem freshCounter_eq (positive : 0 < world.nextCounter) :
    world.freshCounter = world.nextCounter := by
  show (if world.nextCounter ≤ 1 then 1 else world.nextCounter) = world.nextCounter
  grind

theorem Gone.freshCounter (gone : world.Gone guid) : world.freshCounter = world.nextCounter :=
  freshCounter_eq (UInt32.lt_of_le_of_lt UInt32.zero_le gone.used)

theorem Gone.apply (gone : world.Gone guid) (applied : world.apply effect = (.ok (), changed))
    (room : world.nextCounter.toNat + [effect].countP Effect.isSummon < 0x100000000) :
    changed.Gone guid ∧
      changed.nextCounter.toNat = world.nextCounter.toNat + [effect].countP Effect.isSummon := by
  obtain ⟨_, rfl⟩ := apply_eq_ok.mp applied
  have used := UInt32.lt_iff_toNat_lt.mp gone.used
  have next : (world.alter effect).nextCounter.toNat =
      world.nextCounter.toNat + [effect].countP Effect.isSummon := by
    rw [nextCounter_alter, gone.freshCounter]
    cases summons : effect.isSummon with
    | false => simp [summons]
    | true =>
        simp only [summons, List.countP_singleton, ↓reduceIte] at room ⊢
        rw [UInt32.toNat_add]
        exact Nat.mod_eq_of_lt room
  refine ⟨⟨?_, ?_⟩, next⟩
  · -- Counters are given out in order, and that of the missing entity was given out before.
    refine entity?_alter_none gone.absent fun _ same => ?_
    rw [gone.freshCounter] at same
    rw [same] at used
    exact Nat.lt_irrefl _ used
  · apply UInt32.lt_iff_toNat_lt.mpr
    show guid.counter.toNat < (world.alter effect).nextCounter.toNat
    omega

theorem Accepts.gone (accepts : before.Accepts accepted after) (gone : before.Gone guid)
    (room : before.nextCounter.toNat + accepted.countP Effect.isSummon < 0x100000000) :
    after.Gone guid ∧
      after.nextCounter.toNat = before.nextCounter.toNat + accepted.countP Effect.isSummon := by
  induction accepted generalizing before with
  | nil =>
      rw [accepts_nil.mp accepts]
      exact ⟨gone, rfl⟩
  | cons effect rest ih =>
      obtain ⟨next, applied, accepts⟩ := accepts_cons.mp accepts
      rw [← List.singleton_append, List.countP_append] at room ⊢
      obtain ⟨still, counter⟩ := gone.apply applied (by omega)
      obtain ⟨last, total⟩ := ih accepts still (by omega)
      exact ⟨last, by omega⟩

theorem CountersLast.split (last : CountersLast before after) (gone : before.Gone guid)
    (first : before.Accepts accepted middle) (rest : middle.Accepts further after) :
    middle.Gone guid ∧ CountersLast middle after := by
  unfold CountersLast at last ⊢
  rw [(first.append rest).recorded, List.drop_left, List.countP_append] at last
  obtain ⟨still, counter⟩ := first.gone gone (by omega)
  refine ⟨still, ?_⟩
  rw [rest.recorded, List.drop_left]
  omega

end World

end WorldScripts
