import WorldScripts.Proofs.World.Lifetime
import WorldScripts.World.Search

/-!
What searches come upon. A world is searched in the order of the keys under which it keeps its entities,
and a search ends at the guid of an entity, which is also its key if the world is tidy. The search for a
stored spawn then ends at the lowest guid of those that come from it, and the one around an entity only
ever ends at what was asked for.
-/

namespace WorldScripts

namespace World

/-- An entity that serves as a kind of buddy and comes from a stored spawn. -/
def Stored (world : World) (kind : BuddyKind) (dbGuid : UInt32) (entity : Entity) : Prop :=
  (∃ guid, world.entity? guid = some entity) ∧ entity.dbGuid = dbGuid ∧
    entity.guid.kind.servesAs kind = true

/-- The guid is the lowest of the entities of a kind that come from a stored spawn. -/
def Lowest (world : World) (kind : BuddyKind) (dbGuid : UInt32) (guid : Guid) : Prop :=
  (∃ entity, world.Stored kind dbGuid entity ∧ entity.guid = guid) ∧
    ∀ entity, world.Stored kind dbGuid entity → rank guid ≤ rank entity.guid

variable {world : World} {kind : BuddyKind} {dbGuid : UInt32} {guid : Guid}

theorem mem_entries {entity : Entity} :
    (guid, entity) ∈ world.entities.entries ↔ world.entity? guid = some entity :=
  (Entries.find?_eq_some world.entities.sorted).symm

theorem Lowest.unique {other : Guid} (one : world.Lowest kind dbGuid guid)
    (two : world.Lowest kind dbGuid other) : guid = other := by
  obtain ⟨⟨entity, stored, rfl⟩, least⟩ := one
  obtain ⟨⟨entity', stored', rfl⟩, least'⟩ := two
  exact rank_inj (Nat.le_antisymm (least entity' stored') (least' entity stored))

theorem stored_iff {entity : Entity} (known : world.entity? guid = some entity) :
    world.Stored kind dbGuid entity ↔
      (entity.dbGuid == dbGuid && entity.guid.kind.servesAs kind) = true := by
  simp only [Stored, Bool.and_eq_true, beq_iff_eq]
  exact and_iff_right ⟨guid, known⟩

theorem findByDbGuid?_eq (world : World) (kind : BuddyKind) (dbGuid : UInt32) :
    world.findByDbGuid? kind dbGuid =
      (world.entities.entries.find? fun entry =>
        entry.2.dbGuid == dbGuid && entry.2.guid.kind.servesAs kind).map (·.2.guid) := by
  unfold findByDbGuid? OrderedMap.values
  rw [List.find?_map, Option.map_map]
  rfl

theorem findByDbGuid?_eq_some (tidy : world.Tidy) :
    world.findByDbGuid? kind dbGuid = some guid ↔ world.Lowest kind dbGuid guid := by
  rw [findByDbGuid?_eq, Option.map_eq_some_iff]
  constructor
  · rintro ⟨⟨key, entity⟩, found, rfl⟩
    obtain ⟨member, suits, least⟩ := (Entries.find?_eq_least world.entities.sorted).mp found
    have known := mem_entries.mp member
    refine ⟨⟨entity, (stored_iff known).mpr suits, rfl⟩, ?_⟩
    intro other comes
    obtain ⟨place, there⟩ := comes.1
    rw [tidy key entity known, tidy place other there]
    exact least (place, other) (mem_entries.mpr there) ((stored_iff there).mp comes)
  · rintro ⟨⟨entity, comes, rfl⟩, least⟩
    obtain ⟨key, known⟩ := comes.1
    refine ⟨(key, entity), (Entries.find?_eq_least world.entities.sorted).mpr ?_, rfl⟩
    refine ⟨mem_entries.mpr known, (stored_iff known).mp comes, ?_⟩
    rintro ⟨place, other⟩ member suits
    have there := mem_entries.mp member
    have lowest := least other ((stored_iff there).mpr suits)
    rwa [tidy key entity known, tidy place other there] at lowest

def keyedCandidates (world : World) (origin : Guid) (center : Position) (query : Query) :
    List (Float32 × Guid × Entity) :=
  world.entities.entries.filterMap fun (key, entity) =>
    let distance := entity.position.distance center
    if entity.guid ≠ origin ∧ query.accepts entity ∧ distance ≤ query.radius then
      some (distance, key, entity)
    else none

theorem candidates_eq (world : World) (origin : Guid) (center : Position) (query : Query) :
    world.candidates origin center query =
      (world.keyedCandidates origin center query).map fun found => (found.1, found.2.2.guid) := by
  unfold candidates keyedCandidates OrderedMap.values
  rw [List.filterMap_map, List.map_filterMap]
  refine List.filterMap_congr fun entry _ => ?_
  dsimp only [Function.comp_apply]
  split <;> rfl

theorem foldl_nearer_map {α β : Type} (f : α → β) (reached : List (Float32 × α))
    (best : Option (Float32 × α)) :
    (reached.map fun found => (found.1, f found.2)).foldl nearer
        (best.map fun found => (found.1, f found.2)) =
      (reached.foldl nearer best).map fun found => (found.1, f found.2) := by
  induction reached generalizing best with
  | nil => rfl
  | cons next rest ih =>
      rw [List.map_cons, List.foldl_cons, List.foldl_cons, ← ih]
      congr 1
      cases best with
      | none => rfl
      | some best =>
          unfold nearer
          dsimp only [Option.map_some]
          split <;> rfl

theorem findNearest?_eq (world : World) (origin : Guid) (query : Query) :
    world.findNearest? origin query =
      (world.positionOf? origin).bind fun center =>
        ((world.keyedCandidates origin center query).foldl nearer none).map (·.2.2.guid) := by
  unfold findNearest?
  cases world.positionOf? origin with
  | none => rfl
  | some center =>
      dsimp only [Option.bind_some]
      rw [candidates_eq]
      have same := foldl_nearer_map (fun found : Guid × Entity => found.2.guid)
        (world.keyedCandidates origin center query) none
      rw [Option.map_none] at same
      rw [same, Option.map_map]
      rfl

theorem mem_of_nearest {α : Type} {best : Option (Float32 × α)} {found : Float32 × α}
    {reached : List (Float32 × α)} (nearest : reached.foldl nearer best = some found) :
    found ∈ reached ∨ best = some found := by
  induction reached generalizing best with
  | nil => exact .inr nearest
  | cons next rest ih =>
      rcases ih nearest with later | now
      · exact .inl (List.mem_cons_of_mem next later)
      · unfold nearer at now
        split at now
        · split at now
          · exact .inr now
          · cases now
            exact .inl List.mem_cons_self
        · cases now
          exact .inl List.mem_cons_self

theorem accepts_of_findNearest? {origin : Guid} {query : Query}
    (found : world.findNearest? origin query = some guid) :
    ∃ key entity, world.entity? key = some entity ∧ entity.guid = guid ∧
      query.accepts entity = true := by
  rw [findNearest?_eq] at found
  obtain ⟨center, _, found⟩ := Option.bind_eq_some_iff.mp found
  obtain ⟨⟨distance, key, entity⟩, nearest, rfl⟩ := Option.map_eq_some_iff.mp found
  rcases mem_of_nearest nearest with member | none
  · obtain ⟨⟨place, there⟩, member, counted⟩ := List.mem_filterMap.mp member
    dsimp only at counted
    split at counted
    · rename_i eligible
      cases counted
      exact ⟨key, entity, mem_entries.mp member, rfl, eligible.2.1⟩
    · cases counted
  · cases none

end World

end WorldScripts
