import Mathlib.Data.ENat.Lattice
import Mathlib.Data.Set.Card
import WorldScripts.Decode
import WorldScripts.Proofs.Step.Planning
import WorldScripts.Proofs.World.Search

/-!
Summoning under a limit. A command counts the living creatures of a template around the summoner before it
summons another one, so that as many commands as one likes bring their number up to the limit at most. For
that the summoner must stay where it is, and it does since what is summoned takes nobody's place.
-/

namespace WorldScripts

namespace World

/-- Under which guids the living creatures of a template stand that are within a distance of an entity. -/
def around (world : World) (origin : Guid) (entry : UInt32) (reach : Float32) : Set Guid :=
  { guid | ∃ center entity, world.entity? origin = some center ∧ world.entity? guid = some entity ∧
      entity.guid.kind = .creature ∧ entity.guid.entry = entry ∧ entity.state = .alive ∧
      entity.position.distance center.position ≤ reach }

def isAround (center : Position) (entry : UInt32) (reach : Float32) (entity : Entity) : Bool :=
  entity.guid.kind == .creature && entity.guid.entry == entry && entity.isAlive &&
    entity.position.distance center ≤ reach

variable {world before after : World} {origin summoner guid : Guid} {entry : UInt32} {reach : Float32}

theorem mem_around {center : Entity} (here : world.entity? origin = some center) :
    guid ∈ world.around origin entry reach ↔ ∃ entity, (guid, entity) ∈ world.entities.entries ∧
      isAround center.position entry reach entity = true := by
  simp [around, here, mem_entries, isAround, Entity.isAlive, and_assoc]

-- Counting goes by the entities, of which there is one for each guid.
theorem encard_around (world : World) (origin : Guid) (entry : UInt32) (reach : Float32) :
    (world.around origin entry reach).encard = world.countNearby origin entry reach := by
  unfold countNearby positionOf?
  cases here : world.entity? origin with
  | none =>
      have nobody : world.around origin entry reach = ∅ := by
        ext guid
        simp [around, here]
      rw [nobody, Set.encard_empty]
      rfl
  | some center =>
      let counts (found : Guid × Entity) : Bool := isAround center.position entry reach found.2
      let found := world.entities.entries.filter counts
      have keys : world.around origin entry reach = (found.map (·.1)).toFinset := by
        ext guid
        simp [mem_around here, found, counts]
      have distinct : (found.map (·.1)).Nodup :=
        world.entities.nodup_keys.sublist (List.filter_sublist.map _)
      rw [keys, Set.encard_coe_eq_coe_finsetCard, List.toFinset_card_of_nodup distinct,
        List.length_map, ← List.countP_eq_length_filter]
      show _ = ((world.entities.values.countP (isAround center.position entry reach) : Nat) : ℕ∞)
      rw [OrderedMap.values, List.countP_map]
      rfl

theorem numbered_of_life {handlings : List Handling}
    (roomy : ∀ world ∈ life {} handlings, world.Roomy) (reached : world ∈ life {} handlings) :
    0 < world.nextCounter ∧ world.Numbered := by
  have chain := life_leads {} handlings
  obtain ⟨later, same⟩ := life_begins {} handlings
  rw [same] at chain roomy reached
  obtain ⟨past, future, split⟩ := List.append_of_mem reached
  have behind := behind_empty.along chain
    (fun next among => roomy next (List.mem_cons_of_mem _ among)) split
  exact ⟨behind.positive, behind.numbered world (by simp)⟩

theorem leads_offered (world : World) (request : Option Effect) :
    world.Leads (world.offered request) := by
  cases request with
  | none => exact .same world
  | some effect =>
      unfold offered
      rcases world.apply_cases effect with ⟨refusal, _, applied⟩ | ⟨_, applied⟩ <;>
        simp only [applied]
      · exact .same world
      · exact leads_apply applied

-- Nobody is lost by an effect.
theorem has_offered (request : Option Effect) (known : world.Has guid) :
    (world.offered request).Has guid := by
  cases request with
  | none => exact known
  | some effect =>
      unfold offered
      rcases world.apply_cases effect with ⟨refusal, _, applied⟩ | ⟨_, applied⟩ <;>
        simp only [applied]
      · exact known
      · have framed := apply_framed applied
        by_cases made : ∃ made, effect.made? world = some made ∧ guid = made.guid
        · obtain ⟨made, makes, rfl⟩ := made
          rw [Has, framed.made made makes]
          rfl
        · rw [Has, framed.kept guid fun new makes same => made ⟨new, makes, same⟩, Option.isSome_map]
          exact known

section

variable {creature : UInt32} {position : Position} {delay : UInt32} {active : Bool}

-- At most the creature that is summoned is around the summoner in addition.
theorem around_summoned (numbered : world.Numbered)
    (applied : world.apply (.summon summoner creature position delay active) = (.ok (), after)) :
    after.around summoner entry reach ⊆
      {world.freshGuid .creature creature} ∪ world.around summoner entry reach := by
  obtain ⟨accepted, rfl⟩ := apply_eq_ok.mp applied
  obtain ⟨former, known⟩ := entity?_of_needs accepted (List.mem_singleton_self _)
  have makes : (Effect.summon summoner creature position delay active).made? world =
    some { guid := world.freshGuid .creature creature, position, state := .alive } := rfl
  have other : summoner ≠ world.freshGuid .creature creature := by
    intro same
    refine numbered.unused makes ?_
    rw [← same, Has, known]
    rfl
  rintro guid ⟨center, entity, here, there, rest⟩
  have here : (world.spawn .creature creature position).entity? summoner = some center := here
  have there : (world.spawn .creature creature position).entity? guid = some entity := there
  rw [entity?_spawn, if_neg other] at here
  by_cases new : guid = world.freshGuid .creature creature
  · exact .inl new
  · rw [entity?_spawn, if_neg new] at there
    exact .inr ⟨center, entity, here, there, rest⟩

end

end World

namespace Instruction

variable {instruction : Instruction} {roles given : Roles} {world : World} {summoner : Guid}
variable {entry delay limit distance : UInt32}

/-- There are as many creatures around the summoner as there may be. -/
def Full (world : World) (summoner : Guid) (entry limit distance : UInt32) : Prop :=
  limit.toNat ≤ (world.around summoner entry distance.toFloat32).encard

theorem full_iff : Full world summoner entry limit distance ↔
    limit.toNat ≤ world.countNearby summoner entry distance.toFloat32 := by
  rw [Full, World.encard_around, Nat.cast_le]

section

variable (command : instruction.command = .summon entry delay limit distance)
variable (found : instruction.resolve roles world = .ok given) (source : given.source = some summoner)
variable (texts : Texts) (draws : Draws)

include command found source

theorem planned_summon : instruction.planned roles world texts draws = .ok
    (if limit ≠ 0 ∧ limit.toNat ≤ world.countNearby summoner entry distance.toFloat32 then .pass
    else .act (.summon summoner entry instruction.position delay instruction.flags.additional)) := by
  have summons : Step.source ⟨instruction, given⟩ .any = .ok summoner := by
    unfold Step.source Step.require
    rw [source]
    rfl
  unfold planned
  rw [found]
  dsimp only
  unfold Step.plan
  rw [command]
  dsimp only
  unfold Step.planSummon
  rw [summons]
  rfl

theorem execute_full (limited : limit ≠ 0) (full : Full world summoner entry limit distance) :
    let done := (instruction.execute roles world texts draws).1
    done.outcome = .ok .proceed ∧ done.world = world := by
  have planned := planned_summon command found source texts draws
  obtain ⟨_, text, _, executed⟩ := instruction.execute_planned roles world texts draws
  rw [planned, if_pos ⟨limited, full_iff.mp full⟩] at executed
  rw [executed]
  exact ⟨rfl, rfl⟩

theorem request?_spare (spare : ¬ Full world summoner entry limit distance) :
    instruction.request? roles world texts draws =
      some (.summon summoner entry instruction.position delay instruction.flags.additional) := by
  have planned := planned_summon command found source texts draws
  rw [if_neg fun full => spare (full_iff.mpr full.2)] at planned
  rw [instruction.request?_of_planned roles world texts draws planned]
  rfl

end

theorem execute_limited (command : instruction.command = .summon entry delay limit distance)
    (found : instruction.resolve roles world = .ok given) (source : given.source = some summoner)
    (limited : limit ≠ 0) (numbered : world.Numbered) (texts : Texts) (draws : Draws) :
    ((instruction.execute roles world texts draws).1.world.around summoner entry
        distance.toFloat32).encard ≤
      max (world.around summoner entry distance.toFloat32).encard limit.toNat := by
  by_cases full : Full world summoner entry limit distance
  · rw [(execute_full command found source texts draws limited full).2]
    exact le_max_left _ _
  · rw [instruction.execute_world, request?_spare command found source texts draws full]
    unfold World.offered
    let request : Effect :=
      .summon summoner entry instruction.position delay instruction.flags.additional
    rcases world.apply_cases request with ⟨refusal, _, applied⟩ | ⟨_, applied⟩ <;>
      simp only [request, applied]
    · exact le_max_left _ _
    · generalize (world.alter request).record request = after at applied
      have few : (world.around summoner entry distance.toFloat32).encard < limit.toNat := by
        simpa [Full] using full
      -- There was room for one more.
      calc (after.around summoner entry distance.toFloat32).encard
          ≤ ({world.freshGuid .creature entry} ∪
              world.around summoner entry distance.toFloat32 : Set Guid).encard :=
            Set.encard_le_encard (World.around_summoned numbered applied)
        _ ≤ 1 + (world.around summoner entry distance.toFloat32).encard := by
            refine (Set.encard_union_le _ _).trans ?_
            rw [Set.encard_singleton]
        _ ≤ limit.toNat := by
            rw [add_comm]
            exact Order.add_one_le_of_lt few
        _ ≤ max _ _ := le_max_right _ _

end Instruction

/-- Commands that one summoner executes one after another, all of them with the same limit. -/
inductive Summons (summoner : Guid) (entry limit distance : UInt32) : World → World → Prop
  | done (world : World) : Summons summoner entry limit distance world world
  | next {instruction : Instruction} {delay : UInt32} {roles given : Roles} {world after : World}
      {texts : Texts} {draws : Draws}
      (command : instruction.command = .summon entry delay limit distance)
      (found : instruction.resolve roles world = .ok given) (source : given.source = some summoner)
      (rest : Summons summoner entry limit distance
        (instruction.execute roles world texts draws).1.world after) :
      Summons summoner entry limit distance world after

namespace Summons

variable {summoner guid : Guid} {entry limit distance : UInt32} {before after : World}

theorem has (summons : Summons summoner entry limit distance before after) (known : before.Has guid) :
    after.Has guid := by
  induction summons with
  | done => exact known
  | @next instruction delay roles given world after texts draws command found source rest ih =>
      apply ih
      rw [instruction.execute_world]
      exact World.has_offered _ known

theorem limited (summons : Summons summoner entry limit distance before after) (limited : limit ≠ 0)
    (positive : 0 < before.nextCounter) (numbered : before.Numbered) (roomy : after.Roomy) :
    (after.around summoner entry distance.toFloat32).encard ≤
      max (before.around summoner entry distance.toFloat32).encard limit.toNat := by
  induction summons with
  | done => exact le_max_left _ _
  | @next instruction delay roles given world after texts draws command found source rest ih =>
      have leads : world.Leads (instruction.execute roles world texts draws).1.world := by
        rw [instruction.execute_world]
        exact world.leads_offered _
      have room : (instruction.execute roles world texts draws).1.world.Roomy :=
        fun guid known => roomy guid (rest.has known)
      obtain ⟨upwards, numbered'⟩ := leads.counts positive numbered room
      have once := Instruction.execute_limited command found source limited numbered texts draws
      refine (ih (UInt32.lt_of_lt_of_le positive upwards) numbered' roomy).trans ?_
      exact max_le once (le_max_right _ _)

end Summons

/-- However many commands with one limit a summoner executes in a world with room left, the number of
living creatures around the summoner ends up no greater than it was, or than the limit. Where the limit
is reached a command does nothing and the script goes on; elsewhere it asks for another creature. -/
theorem summons_limited (handlings : List Handling)
    (roomy : ∀ world ∈ World.life {} handlings, world.Roomy) {before after : World}
    (reached : before ∈ World.life {} handlings) {summoner : Guid} {entry limit distance : UInt32}
    (limited : limit ≠ 0) (summons : Summons summoner entry limit distance before after)
    (room : after.Roomy) :
    let number (world : World) := (world.around summoner entry distance.toFloat32).encard
    number after ≤ max (number before) limit.toNat ∧
      ∀ (instruction : Instruction) (delay : UInt32) (roles given : Roles) (texts : Texts)
        (draws : Draws),
        instruction.command = .summon entry delay limit distance →
        instruction.resolve roles after = .ok given → given.source = some summoner →
        let done := (instruction.execute roles after texts draws).1
        (limit.toNat ≤ number after → done.outcome = .ok .proceed ∧ done.world = after) ∧
        (number after < limit.toNat → instruction.request? roles after texts draws =
          some (.summon summoner entry instruction.position delay instruction.flags.additional)) := by
  obtain ⟨positive, numbered⟩ := World.numbered_of_life roomy reached
  refine ⟨summons.limited limited positive numbered room, ?_⟩
  intro instruction delay roles given texts draws command found source
  refine ⟨Instruction.execute_full command found source texts draws limited, fun few => ?_⟩
  exact Instruction.request?_spare command found source texts draws (not_le.mpr few)

-- A row that summons up to two creatures.
def Row.summonTwo : Row :=
  { command := 10, datalong := 500, datalong3 := 2, datalong4 := 30, x := 3 }

def summonTwo : Instruction where
  key := 0
  delay := 0
  command := .summon 500 0 2 30
  position := { x := 3 }
  buddy := ⟨0, 0, .creature⟩
  flags := {}

-- A world with a player, who has executed the command a number of times.
def summonedBy : Nat → World
  | 0 => World.handle {} (.spawn .player 0 {})
  | n + 1 => (summonTwo.execute ⟨some (.player 1), none⟩ (summonedBy n) {} default).1.world

theorem summonTwo_limited :
    let roles : Roles := ⟨some (.player 1), none⟩
    let number (world : World) := (world.around (.player 1) 500 (30 : UInt32).toFloat32).encard
    let done := (summonTwo.execute roles (summonedBy 3) {} default).1
    Row.summonTwo.decode {} = .ok summonTwo ∧
      (∀ world ∈ World.life {} [.spawn .player 0 {}], world.Roomy) ∧
      summonedBy 0 ∈ World.life {} [.spawn .player 0 {}] ∧
      Summons (.player 1) 500 2 30 (summonedBy 0) (summonedBy 3) ∧ (summonedBy 3).Roomy ∧
      number (summonedBy 3) ≤ max (number (summonedBy 0)) (2 : UInt32).toNat ∧
      done.outcome = .ok .proceed ∧ done.world = summonedBy 3 := by
  intro roles number done
  have read : Row.summonTwo.decode {} = .ok summonTwo := by decide +kernel
  have roomy : ∀ world ∈ World.life {} [.spawn .player 0 {}], world.Roomy := by decide +kernel
  have reached : summonedBy 0 ∈ World.life {} [.spawn .player 0 {}] := by decide +kernel
  have next (n : Nat) {after : World} (rest : Summons (.player 1) 500 2 30 (summonedBy (n + 1)) after) :
      Summons (.player 1) 500 2 30 (summonedBy n) after :=
    @Summons.next _ _ _ _ summonTwo 0 roles roles _ _ {} default rfl rfl rfl rest
  have summons : Summons (.player 1) 500 2 30 (summonedBy 0) (summonedBy 3) :=
    next 0 (next 1 (next 2 (.done _)))
  have room : (summonedBy 3).Roomy := by decide +kernel
  have full : (2 : UInt32).toNat ≤ number (summonedBy 3) := by
    show _ ≤ (World.around _ _ _ _).encard
    rw [World.encard_around, Nat.cast_le]
    decide +kernel
  obtain ⟨most, later⟩ :=
    summons_limited [.spawn .player 0 {}] roomy reached (by decide) summons room
  obtain ⟨idle, _⟩ := later summonTwo 0 roles roles {} default rfl rfl rfl
  exact ⟨read, roomy, reached, summons, room, most, idle full⟩

end WorldScripts
