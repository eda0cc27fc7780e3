import Mathlib.Data.List.Chain
import WorldScripts.Proofs.Engine.Replay
import WorldScripts.Proofs.World.Frame

/-!
The life of a world, from the empty one on. Entities are added and removed, edited and given commands,
in any order. Counters are given out upwards, and none that was in use once is given out again, whether
or not its entity is still there.
-/

namespace WorldScripts

inductive Handling where
  | spawn (kind : EntityKind) (entry : UInt32) (position : Position)
  | insert (entity : Entity)
  | remove (guid : Guid)
  | setState (guid : Guid) (state : LifeState)
  | edit (guid : Guid) (change : Entity → Entity)
      (keeps : ∀ entity, (change entity).guid = entity.guid)
  | setCondition (condition : UInt32) (met : Bool)
  | failSpell (spell : UInt32)
  | forgetEffects
  | apply (effect : Effect)
  | update (engine : Engine) (attainable : engine.Attainable) (now : UInt64) (texts : Texts)

namespace World

/-- Every entity is kept under its own guid. -/
def Tidy (world : World) : Prop :=
  ∀ guid entity, world.entity? guid = some entity → entity.guid = guid

/-- No entity has the last counter there is. -/
def Roomy (world : World) : Prop :=
  ∀ guid, world.Has guid → guid.counter ≠ 0xFFFFFFFF

instance : DecidablePred Roomy := fun world =>
  decidable_of_iff (∀ guid ∈ world.entities.keys, guid.counter ≠ 0xFFFFFFFF) <| by
    simp only [Roomy, Has, ← OrderedMap.contains_iff_mem_keys]
    rfl

def handle (world : World) : Handling → World
  | .spawn kind entry position => world.spawn kind entry position
  | .insert entity => world.insert entity
  | .remove guid => world.remove guid
  | .setState guid state => world.setState guid state
  | .edit guid change _ => world.modify guid change
  | .setCondition condition met => world.setCondition condition met
  | .failSpell spell => world.failSpell spell
  | .forgetEffects => world.forgetEffects
  | .apply effect => (world.applyAll [effect]).2
  | .update engine _ now texts => (engine.update now world texts).world

def passing (world : World) : Handling → List World
  | .update engine _ now texts => (engine.update now world texts).turns.map Turn.world
  | _ => []

def life (world : World) : List Handling → List World
  | [] => [world]
  | handling :: rest => world :: (world.passing handling ++ life (world.handle handling) rest)

/-- The world came about by what can be done with worlds. -/
def Reached (world : World) : Prop :=
  ∃ handlings, world ∈ life {} handlings

structure Leads (before after : World) : Prop where
  tidy : before.Tidy → after.Tidy
  counts : 0 < before.nextCounter → before.Numbered → after.Roomy →
    before.nextCounter ≤ after.nextCounter ∧ after.Numbered

variable {world before after : World} {effect : Effect} {guid : Guid}

theorem Leads.same (world : World) : world.Leads world :=
  ⟨id, fun _ numbered _ => ⟨UInt32.le_refl _, numbered⟩⟩

-- The counters stay as they are, and so do the guids, less some.
theorem leads_of_kept (counter : after.nextCounter = before.nextCounter)
    (kept : ∀ guid entity, after.entity? guid = some entity →
      ∃ former, before.entity? guid = some former ∧ entity.guid = former.guid) :
    before.Leads after := by
  constructor
  · intro tidy guid entity known
    obtain ⟨former, before, same⟩ := kept guid entity known
    rw [same, tidy guid former before]
  · intro _ numbered _
    refine ⟨counter ▸ UInt32.le_refl _, fun guid known => ?_⟩
    obtain ⟨entity, known⟩ := Option.isSome_iff_exists.mp known
    obtain ⟨former, before, _⟩ := kept guid entity known
    rw [counter]
    exact numbered guid (Option.isSome_iff_exists.mpr ⟨former, before⟩)

theorem leads_modify (world : World) (named : Guid) {change : Entity → Entity}
    (keeps : ∀ entity, (change entity).guid = entity.guid) :
    world.Leads (world.modify named change) := by
  refine leads_of_kept rfl ?_
  intro guid entity known
  rw [entity?_modify] at known
  obtain ⟨former, before, rfl⟩ := Option.map_eq_some_iff.mp known
  refine ⟨former, before, ?_⟩
  split
  · exact keeps former
  · rfl

-- One entity comes in, or takes the place of another one, and the counters have gone past it.
theorem leads_of_added (entity : Entity) (other : ∀ guid, guid ≠ entity.guid →
      after.entity? guid = before.entity? guid)
    (added : after.entity? entity.guid = some entity)
    (counter : entity.guid.counter ≠ 0xFFFFFFFF → 0 < before.nextCounter →
      before.nextCounter ≤ after.nextCounter ∧ entity.guid.counter < after.nextCounter) :
    before.Leads after := by
  constructor
  · intro tidy guid found known
    by_cases same : guid = entity.guid
    · subst same
      rw [added] at known
      cases known
      rfl
    · rw [other guid same] at known
      exact tidy guid found known
  · intro positive numbered roomy
    have last : entity.guid.counter ≠ 0xFFFFFFFF := roomy entity.guid (by rw [Has, added]; rfl)
    obtain ⟨upwards, past⟩ := counter last positive
    refine ⟨upwards, fun guid known => ?_⟩
    by_cases same : guid = entity.guid
    · rw [same]
      exact past
    · rw [Has, other guid same] at known
      exact UInt32.lt_of_lt_of_le (numbered guid known) upwards

theorem leads_insert (world : World) (entity : Entity) : world.Leads (world.insert entity) := by
  have bounds := le_max_word world.nextCounter (entity.guid.counter + 1)
  refine leads_of_added entity (fun guid other => ?_) ?_ fun last _ => ?_
  · rw [entity?_insert, if_neg other]
  · rw [entity?_insert, if_pos rfl]
  · have next : entity.guid.counter < entity.guid.counter + 1 := by grind
    exact ⟨bounds.1, UInt32.lt_of_lt_of_le next bounds.2⟩

theorem leads_spawn (world : World) (kind : EntityKind) (entry : UInt32) (position : Position) :
    world.Leads (world.spawn kind entry position) := by
  refine leads_of_added { guid := world.freshGuid kind entry, position }
    (fun guid other => ?_) ?_ fun last positive => ?_
  · rw [entity?_spawn, if_neg other]
  · rw [entity?_spawn, if_pos rfl]
  · have same := freshCounter_eq positive
    show world.nextCounter ≤ world.freshCounter + 1 ∧ world.freshCounter < world.freshCounter + 1
    have last : world.freshCounter ≠ 0xFFFFFFFF := last
    grind

theorem leads_alter (world : World) (effect : Effect) : world.Leads (world.alter effect) := by
  cases effect with
  | changeFlag set entity field mask =>
      cases set <;> exact leads_of_kept rfl fun guid entity known => ⟨entity, known, rfl⟩
  | setField => exact leads_of_kept rfl fun guid entity known => ⟨entity, known, rfl⟩
  | moveTo | teleport | despawn | despawnGameObject | respawnGameObject | resetGameObject
  | respawn => exact leads_modify world _ fun _ => rfl
  | summon => exact leads_spawn world _ _ _
  | _ => exact Leads.same world

theorem leads_apply (applied : world.apply effect = (.ok (), after)) : world.Leads after := by
  obtain ⟨_, rfl⟩ := apply_eq_ok.mp applied
  -- The record has no part in it.
  exact ⟨(leads_alter world effect).tidy, (leads_alter world effect).counts⟩

theorem leads_applyAll (world : World) (effect : Effect) :
    world.Leads (world.applyAll [effect]).2 := by
  rcases world.apply_cases effect with ⟨refusal, _, applied⟩ | ⟨_, applied⟩
  · rw [applyAll, applied]
    exact .same world
  · rw [accepts_single.mpr applied]
    exact leads_apply applied

theorem leads_remove (world : World) (gone : Guid) : world.Leads (world.remove gone) := by
  refine leads_of_kept rfl fun guid entity known => ⟨entity, ?_, rfl⟩
  unfold remove entity? at known
  rw [OrderedMap.find?_erase] at known
  split at known
  · cases known
  · exact known

theorem leads_failSpell (world : World) (spell : UInt32) : world.Leads (world.failSpell spell) := by
  unfold failSpell
  split
  · exact .same world
  · exact leads_of_kept rfl fun guid entity known => ⟨entity, known, rfl⟩

end World

namespace Retraces

variable {texts : Texts} {before after : World} {turns : List Turn} {accepted : List Effect}
variable {draws spare : Draws}

theorem begins (retraces : Retraces texts before draws turns accepted after spare) :
    ∃ later, turns.map Turn.world ++ [after] = before :: later := by
  cases retraces with
  | done => exact ⟨[], rfl⟩
  | rests _ _ => exact ⟨_, rfl⟩
  | moves _ _ => exact ⟨_, rfl⟩

theorem leads (retraces : Retraces texts before draws turns accepted after spare) :
    (turns.map Turn.world ++ [after]).IsChain World.Leads := by
  induction retraces with
  | done => exact .singleton _
  | @rests turn _ _ _ _ _ _ rest ih =>
      obtain ⟨later, same⟩ := rest.begins
      rw [same] at ih
      rw [List.map_cons, List.cons_append, same]
      exact .cons_cons (.same turn.world) ih
  | moves moves rest ih =>
      obtain ⟨later, same⟩ := rest.begins
      rw [same] at ih
      rw [List.map_cons, List.cons_append, same]
      exact .cons_cons (World.leads_apply moves.2) ih

end Retraces

namespace World

variable {world before after : World}

theorem passing_leads (world : World) (handling : Handling) :
    (world :: (world.passing handling ++ [world.handle handling])).IsChain Leads := by
  cases handling with
  | update engine attainable now texts =>
      obtain ⟨agenda, represents⟩ := attainable.represents
      obtain ⟨accepted, retraces⟩ := Engine.update_retraces represents now world texts
      obtain ⟨later, same⟩ := retraces.begins
      have chain := retraces.leads
      unfold passing handle
      rw [same] at chain ⊢
      exact .cons_cons (.same world) chain
  | spawn kind entry position => exact List.isChain_pair.mpr (leads_spawn world kind entry position)
  | insert entity => exact List.isChain_pair.mpr (leads_insert world entity)
  | remove guid => exact List.isChain_pair.mpr (leads_remove world guid)
  | setState guid state => exact List.isChain_pair.mpr (leads_modify world guid fun _ => rfl)
  | edit guid change keeps => exact List.isChain_pair.mpr (leads_modify world guid keeps)
  | apply effect => exact List.isChain_pair.mpr (leads_applyAll world effect)
  | failSpell spell => exact List.isChain_pair.mpr (leads_failSpell world spell)
  | setCondition | forgetEffects =>
      exact List.isChain_pair.mpr (leads_of_kept rfl fun guid entity known => ⟨entity, known, rfl⟩)

theorem life_begins (world : World) (handlings : List Handling) :
    ∃ later, world.life handlings = world :: later := by
  cases handlings with
  | nil => exact ⟨[], rfl⟩
  | cons handling rest => exact ⟨_, rfl⟩

theorem life_leads (world : World) (handlings : List Handling) :
    (world.life handlings).IsChain Leads := by
  induction handlings generalizing world with
  | nil => exact .singleton world
  | cons handling rest ih =>
      obtain ⟨later, same⟩ := (world.handle handling).life_begins rest
      have chain := ih (world.handle handling)
      rw [same] at chain
      rw [life, same, ← List.cons_append]
      exact List.isChain_split.mpr ⟨world.passing_leads handling, chain⟩

theorem tidy_of_leads {worlds : List World} (chain : (world :: worlds).IsChain Leads)
    (tidy : world.Tidy) : ∀ later ∈ world :: worlds, later.Tidy := by
  induction worlds generalizing world with
  | nil => simpa using tidy
  | cons next rest ih =>
      obtain ⟨leads, chain⟩ := List.isChain_cons_cons.mp chain
      intro later member
      rcases List.mem_cons.mp member with rfl | member
      · exact tidy
      · exact ih chain (leads.tidy tidy) later member

theorem tidy_empty : Tidy {} := by
  intro guid entity known
  cases known

theorem Reached.tidy (reached : world.Reached) : world.Tidy := by
  obtain ⟨handlings, member⟩ := reached
  have chain := life_leads {} handlings
  obtain ⟨later, same⟩ := life_begins {} handlings
  rw [same] at chain member
  exact tidy_of_leads chain tidy_empty world member

/-- The world comes behind others, and the counters that it gives out come behind all of theirs. -/
structure Behind (past : List World) (world : World) : Prop where
  tidy : world.Tidy
  positive : 0 < world.nextCounter
  numbered : ∀ earlier ∈ past ++ [world], ∀ guid, earlier.Has guid →
    guid.counter < world.nextCounter

theorem behind_empty : Behind [] {} := by
  refine ⟨tidy_empty, by decide, ?_⟩
  intro earlier member guid known
  cases List.mem_singleton.mp member
  cases known

theorem Behind.next {past : List World} (behind : Behind past before) (leads : before.Leads after)
    (roomy : after.Roomy) : Behind (past ++ [before]) after := by
  have own : before.Numbered := behind.numbered before (by simp)
  obtain ⟨upwards, numbered⟩ := leads.counts behind.positive own roomy
  refine ⟨leads.tidy behind.tidy, UInt32.lt_of_lt_of_le behind.positive upwards, ?_⟩
  intro earlier member guid known
  rcases List.mem_append.mp member with before | last
  · exact UInt32.lt_of_lt_of_le (behind.numbered earlier before guid known) upwards
  · cases List.mem_singleton.mp last
    exact numbered guid known

-- Along worlds with room left, each one comes behind those before it.
theorem Behind.along {past between worlds future : List World} {now : World}
    (behind : Behind past world) (chain : (world :: worlds).IsChain Leads)
    (roomy : ∀ later ∈ worlds, later.Roomy) (split : world :: worlds = between ++ now :: future) :
    Behind (past ++ between) now := by
  induction worlds generalizing past world between with
  | nil =>
      cases between with
      | nil =>
          cases split
          rw [List.append_nil]
          exact behind
      | cons first rest => simp at split
  | cons next rest ih =>
      cases between with
      | nil =>
          cases split
          rw [List.append_nil]
          exact behind
      | cons first others =>
          obtain ⟨rfl, same⟩ := List.cons.inj split
          obtain ⟨leads, chain⟩ := List.isChain_cons_cons.mp chain
          have further := behind.next leads (roomy next List.mem_cons_self)
          have after := ih further chain
            (fun later member => roomy later (List.mem_cons_of_mem next member)) same
          rwa [List.append_assoc] at after

/-- The world has come to have one entity more, under a guid that was free. -/
structure Gains (before : World) (made : Entity) (after : World) : Prop where
  free : ¬ before.Has made.guid
  added : after.entity? made.guid = some made
  kept : ∀ guid, guid ≠ made.guid → after.entity? guid = before.entity? guid

theorem gains_spawn (kind : EntityKind) (entry : UInt32) (position : Position)
    (free : ¬ world.Has (world.freshGuid kind entry)) :
    world.Gains { guid := world.freshGuid kind entry, position } (world.spawn kind entry position) := by
  refine ⟨free, ?_, fun guid other => ?_⟩
  · rw [entity?_spawn, if_pos rfl]
  · rw [entity?_spawn, if_neg other]

theorem Behind.fresh {past : List World} (behind : Behind past world) (kind : EntityKind)
    (entry : UInt32) : ∀ earlier ∈ past ++ [world], ¬ earlier.Has (world.freshGuid kind entry) := by
  intro earlier member known
  have below : world.freshCounter < world.nextCounter := behind.numbered earlier member _ known
  exact UInt32.not_le.mpr below (le_max_word world.nextCounter 1).1

/-- As long as no entity of a life has the last counter there is, each of its worlds keeps every entity
under its own guid, and its next counter is above that of each guid there was until then. So whatever is
spawned or summoned there has a guid that was never in use, and takes nobody's place. -/
theorem life_fresh (handlings : List Handling) (roomy : ∀ world ∈ life {} handlings, world.Roomy)
    (past future : List World) (world : World) (split : life {} handlings = past ++ world :: future) :
    world.Tidy ∧
      (∀ earlier ∈ past ++ [world], ∀ guid, earlier.Has guid → guid.counter < world.nextCounter) ∧
      (∀ kind entry position,
        (∀ earlier ∈ past ++ [world], ¬ earlier.Has (world.freshGuid kind entry)) ∧
        world.Gains { guid := world.freshGuid kind entry, position }
          (world.spawn kind entry position)) ∧
      ∀ summoner entry position delay active after,
        world.apply (.summon summoner entry position delay active) = (.ok (), after) →
        (∀ earlier ∈ past ++ [world], ¬ earlier.Has (world.freshGuid .creature entry)) ∧
        world.Gains { guid := world.freshGuid .creature entry, position } after := by
  have chain := life_leads {} handlings
  obtain ⟨later, same⟩ := life_begins {} handlings
  rw [same] at chain roomy split
  have behind : Behind past world := behind_empty.along chain
    (fun next member => roomy next (List.mem_cons_of_mem _ member)) split
  refine ⟨behind.tidy, behind.numbered, ?_, ?_⟩
  · intro kind entry position
    have fresh := behind.fresh kind entry
    exact ⟨fresh, gains_spawn kind entry position (fresh world (by simp))⟩
  · intro summoner entry position delay active after applied
    have fresh := behind.fresh .creature entry
    obtain ⟨_, rfl⟩ := apply_eq_ok.mp applied
    obtain ⟨free, added, kept⟩ := gains_spawn .creature entry position (fresh world (by simp))
    exact ⟨fresh, free, added, kept⟩

def emoteEngine : Engine :=
  ((default : Engine).fire .event 7 [.emoteAfter 1] ⟨some (.player 1), none⟩ 10 {}).value.2

theorem attainable_emoteEngine : emoteEngine.Attainable := .fire _ _ _ _ _ _ (.new _)

-- A creature that came from elsewhere is gone when another one is called for.
def spawnAndSummon : List Handling :=
  [.spawn .player 0 {}, .insert { guid := .creature 21 7 }, .remove (.creature 21 7),
    .update emoteEngine attainable_emoteEngine 12 {}, .apply (.summon (.player 1) 21 {} 0 false)]

theorem spawnAndSummon_fresh :
    (∀ world ∈ life {} spawnAndSummon, world.Roomy) ∧
      ∃ past world, life {} spawnAndSummon = past ++ [world] ∧ world.Has (.creature 21 8) ∧
        ∀ earlier ∈ past ++ [world], ¬ earlier.Has (.creature 21 9) := by
  have roomy : ∀ world ∈ life {} spawnAndSummon, world.Roomy := by
    have all : ((life {} spawnAndSummon).all fun world => decide world.Roomy) = true := by cbv
    simpa using all
  have nonempty : life {} spawnAndSummon ≠ [] := by simp [life, spawnAndSummon]
  have split := (List.dropLast_append_getLast nonempty).symm
  refine ⟨roomy, _, _, split, ?_, ?_⟩
  · show (entity? _ _).isSome = true
    cbv
  · have fresh := ((life_fresh spawnAndSummon roomy _ [] _ split).2.2.1 .creature 21 {}).1
    have next : ((life {} spawnAndSummon).getLast nonempty).freshGuid .creature 21 = .creature 21 9 := by cbv
    rwa [next] at fresh

end World

end WorldScripts
