import WorldScripts.Proofs.Binary32.Order
import WorldScripts.Proofs.World.Search

/-!
The nearest entity. A search looks at all entities in the order of the guids under which they stand and
keeps the one it has unless the next one is nearer. In the end it has the one at the least distance, and
of several at that distance the one under the least guid; it has none only if nobody is eligible.
-/

namespace WorldScripts

namespace World

/-- The entity under a guid is what a search is for, and is so far away. Distances are taken as they come out
rounded, and one that is no number is within no radius. -/
def Eligible (world : World) (origin : Guid) (query : Query) (key : Guid) (entity : Entity)
    (distance : Float32) : Prop :=
  ∃ center, world.entity? origin = some center ∧ world.entity? key = some entity ∧
    entity.guid ≠ origin ∧ entity.guid.kind.servesAs query.kind = true ∧
    entity.guid.entry = query.entry ∧ (query.includeDead = true ∨ entity.state = .alive) ∧
    distance = entity.position.distance center.position ∧ distance ≤ query.radius

/-- Nobody who is eligible is nearer, and others that are as near stand under greater guids. -/
def Nearest (world : World) (origin : Guid) (query : Query) (key : Guid) (entity : Entity) : Prop :=
  ∃ distance, world.Eligible origin query key entity distance ∧
    ∀ other entity' further, world.Eligible origin query other entity' further →
      distance ≤ further ∧ (other ≠ key → further ≤ distance → rank key < rank other)

-- The pick among those that were seen.
structure Pick (seen : List (Float32 × Guid × Entity)) (pick : Float32 × Guid × Entity) : Prop where
  member : pick ∈ seen
  ahead : ∀ other ∈ seen,
    pick.1 ≤ other.1 ∧ (other.2.1 ≠ pick.2.1 → other.1 ≤ pick.1 → rank pick.2.1 < rank other.2.1)

variable {world : World} {origin key : Guid} {entity : Entity} {query : Query} {distance : Float32}
variable {seen : List (Float32 × Guid × Entity)} {best next : Float32 × Guid × Entity}

theorem Pick.stays (pick : Pick seen best) (later : ∀ earlier ∈ seen, rank earlier.2.1 < rank next.2.1)
    (no : best.1 ≤ next.1) : Pick (seen ++ [next]) best := by
  refine ⟨List.mem_append_left _ pick.member, ?_⟩
  intro other member
  rcases List.mem_append.mp member with earlier | last
  · exact pick.ahead other earlier
  · cases List.mem_singleton.mp last
    exact ⟨no, fun _ _ => later best pick.member⟩

theorem Pick.passes (pick : Pick seen best) (number : next.1.isNaN = false) (yes : ¬ best.1 ≤ next.1) :
    Pick (seen ++ [next]) next := by
  refine ⟨List.mem_append_right _ (List.mem_singleton_self next), ?_⟩
  intro other member
  rcases List.mem_append.mp member with earlier | last
  · obtain ⟨behind, _⟩ := pick.ahead other earlier
    -- What is not ahead of the next one is behind it, and so is all that was behind the former pick.
    have nearer : next.1 ≤ best.1 :=
      (Binary32.le_total number (Binary32.isNaN_of_le behind).1).resolve_right yes
    exact ⟨Binary32.le_trans nearer behind, fun _ level => absurd (Binary32.le_trans behind level) yes⟩
  · cases List.mem_singleton.mp last
    exact ⟨Binary32.le_refl number, fun other _ => absurd rfl other⟩

theorem Nearest.unique {other : Guid} {entity' : Entity}
    (first : world.Nearest origin query key entity)
    (second : world.Nearest origin query other entity') : key = other ∧ entity = entity' := by
  obtain ⟨distance, eligible, ahead⟩ := first
  obtain ⟨further, eligible', ahead'⟩ := second
  have same : key = other := by
    obtain ⟨le, lower⟩ := ahead other entity' further eligible'
    obtain ⟨ge, higher⟩ := ahead' key entity distance eligible
    by_contra different
    exact Nat.lt_asymm (lower (Ne.symm different) ge) (higher different le)
  subst same
  obtain ⟨_, _, known, _⟩ := eligible
  obtain ⟨_, _, known', _⟩ := eligible'
  exact ⟨rfl, Option.some.inj (known.symm.trans known')⟩

end World

end WorldScripts
