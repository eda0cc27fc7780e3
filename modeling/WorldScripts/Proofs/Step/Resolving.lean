import WorldScripts.Proofs.Decode.Provenance
import WorldScripts.Proofs.World.Search
import WorldScripts.Step.Roles

/-!
Who acts in a command. The buddy is whoever one of three ways of looking comes upon, and is found if it
is what the command asks for. The roles are then settled in three steps, one after another.
-/

namespace WorldScripts

inductive Roles.Seeks : Roles → Guid → Prop
  | source (guid : Guid) (target : Option Guid) : Seeks ⟨some guid, target⟩ guid
  | target (guid : Guid) : Seeks ⟨none, some guid⟩ guid

namespace Roles

-- The three steps, in the order in which they are taken.

def join (roles : Roles) (flags : RowFlags) (buddy : Guid) : Roles :=
  match flags.buddyAsTarget with
  | true => ⟨roles.source, some buddy⟩
  | false => ⟨some buddy, roles.target⟩

def turn (roles : Roles) (flags : RowFlags) : Roles :=
  match flags.reverse with
  | true => ⟨roles.target, roles.source⟩
  | false => roles

def aim (roles : Roles) (flags : RowFlags) : Roles :=
  match flags.sourceTargetsSelf with
  | true => ⟨roles.source, roles.source⟩
  | false => roles

theorem searcher?_eq_some {roles : Roles} {guid : Guid} :
    Instruction.searcher? roles = some guid ↔ roles.Seeks guid := by
  obtain ⟨source, target⟩ := roles
  constructor
  · intro found
    cases source with
    | some source =>
        cases found
        exact .source guid target
    | none =>
        cases found
        exact .target guid
  · rintro (_ | _) <;> rfl

theorem Seeks.unique {roles : Roles} {guid other : Guid} (one : roles.Seeks guid)
    (two : roles.Seeks other) : guid = other :=
  Option.some.inj ((searcher?_eq_some.mpr one).symm.trans (searcher?_eq_some.mpr two))

end Roles

theorem RowFlags.assign_none (flags : RowFlags) (roles : Roles) :
    flags.assign roles none = (roles.turn flags).aim flags := by
  unfold assign Roles.turn Roles.aim
  cases flags.reverse <;> cases flags.sourceTargetsSelf <;> rfl

theorem RowFlags.assign_some (flags : RowFlags) (roles : Roles) (buddy : Guid) :
    flags.assign roles (some buddy) = ((roles.join flags buddy).turn flags).aim flags := by
  rw [← assign_none]
  unfold assign Roles.join
  cases flags.buddyAsTarget <;> rfl

namespace Instruction

/-- Whom a command means by its buddy, before anything is asked of it. -/
inductive Candidate (instruction : Instruction) (roles : Roles) (world : World) : Guid → Prop
  | near {searcher guid : Guid} (around : instruction.flags.buddyByGuid = false)
      (alone : instruction.flags.buddyIsPet = false) (seeks : roles.Seeks searcher)
      (nearest : world.findNearest? searcher {
        kind := instruction.buddy.kind
        entry := instruction.buddy.entry
        radius := instruction.buddy.radiusOrGuid.toFloat32
        includeDead := instruction.flags.buddyIsDespawned } = some guid) :
      Candidate instruction roles world guid
  | stored {guid : Guid} (mode : instruction.flags.buddyByGuid = true)
      (lowest : world.Lowest instruction.buddy.kind instruction.buddy.radiusOrGuid guid) :
      Candidate instruction roles world guid
  | pet {searcher guid : Guid} {owner : Entity} (mode : instruction.flags.buddyIsPet = true)
      (seeks : roles.Seeks searcher) (known : world.entity? searcher = some owner)
      (owned : owner.pet = some guid) : Candidate instruction roles world guid

/-- The entity is there, is what the buddy should be, and is alive unless it need not be. -/
def Suits (instruction : Instruction) (world : World) (guid : Guid) : Prop :=
  ∃ entity, world.entity? guid = some entity ∧ entity.guid.entry = instruction.buddy.entry ∧
    entity.guid.kind.servesAs instruction.buddy.kind = true ∧
    (instruction.flags.buddyIsDespawned = true ∨ entity.state = .alive)

variable {instruction : Instruction} {roles : Roles} {world : World} {guid : Guid}

theorem suits_of_near (tidy : world.Tidy) (around : instruction.flags.buddyByGuid = false)
    (alone : instruction.flags.buddyIsPet = false)
    (candidate : instruction.Candidate roles world guid) : instruction.Suits world guid := by
  obtain ⟨_, _, _, nearest⟩ | ⟨byGuid⟩ | ⟨isPet⟩ := candidate
  · obtain ⟨key, entity, known, rfl, accepted⟩ := World.accepts_of_findNearest? nearest
    rw [← tidy key entity known] at known
    simp only [Query.accepts, Bool.and_eq_true, Bool.or_eq_true, beq_iff_eq, Entity.isAlive] at accepted
    exact ⟨entity, known, accepted.1.2, accepted.1.1, accepted.2⟩
  · rw [around] at byGuid
    cases byGuid
  · rw [alone] at isPet
    cases isPet

-- What is asked of a buddy that was found by its spawn or as a pet.
theorem suits_iff {found? : Option Guid} :
    (found?.bind fun found => (world.entity? found).bind fun entity =>
      if entity.guid.entry == instruction.buddy.entry &&
          entity.guid.kind.servesAs instruction.buddy.kind &&
          (instruction.flags.buddyIsDespawned || entity.isAlive) then
        some found
      else none) = some guid ↔ found? = some guid ∧ instruction.Suits world guid := by
  constructor
  · intro accepted
    obtain ⟨found, came, accepted⟩ := Option.bind_eq_some_iff.mp accepted
    obtain ⟨entity, known, suits⟩ := Option.bind_eq_some_iff.mp accepted
    split at suits
    · rename_i sound
      cases suits
      simp only [Bool.and_eq_true, Bool.or_eq_true, beq_iff_eq, Entity.isAlive, and_assoc] at sound
      exact ⟨came, entity, known, sound⟩
    · cases suits
  · rintro ⟨rfl, entity, known, sound⟩
    rw [Option.bind_some, known, Option.bind_some]
    refine if_pos ?_
    simpa only [Bool.and_eq_true, Bool.or_eq_true, beq_iff_eq, Entity.isAlive, and_assoc] using sound

theorem candidate_stored (tidy : world.Tidy) (byGuid : instruction.flags.buddyByGuid = true)
    (owned : instruction.flags.buddyIsPet = false) :
    world.findByDbGuid? instruction.buddy.kind instruction.buddy.radiusOrGuid = some guid ↔
      instruction.Candidate roles world guid := by
  rw [World.findByDbGuid?_eq_some tidy]
  refine ⟨.stored byGuid, ?_⟩
  rintro (⟨around⟩ | ⟨_, lowest⟩ | ⟨isPet⟩)
  · simp [byGuid] at around
  · exact lowest
  · simp [owned] at isPet

theorem candidate_pet (unnumbered : instruction.flags.buddyByGuid = false)
    (isPet : instruction.flags.buddyIsPet = true) :
    ((searcher? roles).bind fun searcher => (world.entity? searcher).bind Entity.pet) = some guid ↔
      instruction.Candidate roles world guid := by
  constructor
  · intro found
    obtain ⟨searcher, seeks, found⟩ := Option.bind_eq_some_iff.mp found
    obtain ⟨owner, known, owned⟩ := Option.bind_eq_some_iff.mp found
    exact .pet isPet (Roles.searcher?_eq_some.mp seeks) known owned
  · rintro (⟨_, alone⟩ | ⟨byGuid⟩ | ⟨_, seeks, known, owned⟩)
    · simp [isPet] at alone
    · simp [unnumbered] at byGuid
    · rw [Roles.searcher?_eq_some.mpr seeks, Option.bind_some, known, Option.bind_some, owned]

theorem candidate_near (around : instruction.flags.buddyByGuid = false)
    (alone : instruction.flags.buddyIsPet = false) :
    ((searcher? roles).bind fun searcher => world.findNearest? searcher {
        kind := instruction.buddy.kind
        entry := instruction.buddy.entry
        radius := instruction.buddy.radiusOrGuid.toFloat32
        includeDead := instruction.flags.buddyIsDespawned }) = some guid ↔
      instruction.Candidate roles world guid := by
  constructor
  · intro found
    obtain ⟨searcher, seeks, nearest⟩ := Option.bind_eq_some_iff.mp found
    exact .near around alone (Roles.searcher?_eq_some.mp seeks) nearest
  · rintro (⟨_, _, seeks, nearest⟩ | ⟨byGuid⟩ | ⟨isPet⟩)
    · rw [Roles.searcher?_eq_some.mpr seeks, Option.bind_some, nearest]
    · simp [around] at byGuid
    · simp [alone] at isPet

theorem resolve_unset (unset : instruction.buddy.isSet = false) :
    instruction.resolve roles world = .ok ((roles.turn instruction.flags).aim instruction.flags) := by
  unfold resolve findBuddy
  rw [unset, ← RowFlags.assign_none]
  rfl

theorem resolve_sought (set : instruction.buddy.isSet = true)
    (sought : instruction.findBuddy? roles world = some guid) :
    instruction.resolve roles world =
      .ok (((roles.join instruction.flags guid).turn instruction.flags).aim instruction.flags) := by
  unfold resolve findBuddy
  rw [set, sought, ← RowFlags.assign_some]
  rfl

theorem resolve_unsought (set : instruction.buddy.isSet = true)
    (unsought : instruction.findBuddy? roles world = none) :
    instruction.resolve roles world =
      .error (.buddyNotFound instruction.tag instruction.buddy.entry
        instruction.buddy.radiusOrGuid) := by
  unfold resolve findBuddy
  rw [set, unsought]
  rfl

section

variable {row : Row} (ready : instruction.Ready row) (tidy : world.Tidy)

include ready tidy

theorem findBuddy?_eq_some :
    instruction.findBuddy? roles world = some guid ↔
      instruction.Candidate roles world guid ∧ instruction.Suits world guid := by
  unfold findBuddy?
  simp only [Option.bind_eq_bind]
  cases byGuid : instruction.flags.buddyByGuid with
  | true =>
      -- No row that could be read asks for two ways of looking at once.
      have owned : instruction.flags.buddyIsPet = false :=
        eq_false_of_ne_true fun isPet => ready.search ⟨byGuid, isPet⟩
      rw [← candidate_stored tidy byGuid owned, ← suits_iff]
      rfl
  | false =>
      cases isPet : instruction.flags.buddyIsPet with
      | true =>
          rw [← candidate_pet byGuid isPet, ← suits_iff]
          simp only [Option.bind_assoc]
          rfl
      | false =>
          have suits (candidate : instruction.Candidate roles world guid) :=
            suits_of_near tidy byGuid isPet candidate
          rw [and_iff_left_of_imp suits, ← candidate_near byGuid isPet]
          rfl

omit tidy in
theorem Candidate.unique {other : Guid} (one : instruction.Candidate roles world guid)
    (two : instruction.Candidate roles world other) : guid = other := by
  have single := ready.search
  cases one with
  | near around alone seeks nearest =>
      cases two with
      | near _ _ seeks' nearest' =>
          cases seeks.unique seeks'
          exact Option.some.inj (nearest.symm.trans nearest')
      | stored mode => simp [around] at mode
      | pet mode => simp [alone] at mode
  | stored byGuid lowest =>
      cases two with
      | near around => simp [byGuid] at around
      | stored _ lowest' => exact lowest.unique lowest'
      | pet isPet => exact absurd ⟨byGuid, isPet⟩ single
  | pet isPet seeks known owned =>
      cases two with
      | near _ alone => simp [isPet] at alone
      | stored byGuid => exact absurd ⟨byGuid, isPet⟩ single
      | pet _ seeks' known' owned' =>
          cases seeks.unique seeks'
          cases known.symm.trans known'
          exact Option.some.inj (owned.symm.trans owned')

theorem resolve_cases :
    (instruction.buddy.isSet = false ∧
      instruction.resolve roles world =
        .ok ((roles.turn instruction.flags).aim instruction.flags)) ∨
    (instruction.buddy.isSet = true ∧
      ∃ guid, instruction.Candidate roles world guid ∧ instruction.Suits world guid ∧
        instruction.resolve roles world =
          .ok (((roles.join instruction.flags guid).turn instruction.flags).aim
            instruction.flags)) ∨
    (instruction.buddy.isSet = true ∧
      (∀ guid, instruction.Candidate roles world guid → ¬ instruction.Suits world guid) ∧
      instruction.resolve roles world =
        .error (.buddyNotFound instruction.tag instruction.buddy.entry
          instruction.buddy.radiusOrGuid)) := by
  cases set : instruction.buddy.isSet with
  | false => exact .inl ⟨rfl, resolve_unset set⟩
  | true =>
      cases sought : instruction.findBuddy? roles world with
      | some guid =>
          obtain ⟨candidate, suits⟩ := (findBuddy?_eq_some ready tidy).mp sought
          exact .inr (.inl ⟨rfl, guid, candidate, suits, resolve_sought set sought⟩)
      | none =>
          refine .inr (.inr ⟨rfl, fun guid candidate suits => ?_, resolve_unsought set sought⟩)
          rw [(findBuddy?_eq_some ready tidy).mpr ⟨candidate, suits⟩] at sought
          cases sought

end

/-- A command without a buddy always has its roles. One with a buddy fails just when nobody is meant, or
somebody who does not suit; otherwise the buddy joins in, before source and target are turned and aimed.
A search around comes upon nobody who does not suit. -/
theorem resolve_roles {row : Row} {options : DecodeOptions}
    (decoded : row.decode options = .ok instruction) (reached : world.Reached) (roles : Roles) :
    (∀ guid other, instruction.Candidate roles world guid → instruction.Candidate roles world other →
      guid = other) ∧
    (instruction.flags.buddyByGuid = false → instruction.flags.buddyIsPet = false →
      ∀ guid, instruction.Candidate roles world guid → instruction.Suits world guid) ∧
    (∀ error, instruction.resolve roles world = .error error ↔
      instruction.buddy.isSet = true ∧
        (∀ guid, instruction.Candidate roles world guid → ¬ instruction.Suits world guid) ∧
        error = .buddyNotFound instruction.tag instruction.buddy.entry
          instruction.buddy.radiusOrGuid) ∧
    ∀ settled, instruction.resolve roles world = .ok settled ↔
      (instruction.buddy.isSet = false ∧
        settled = (roles.turn instruction.flags).aim instruction.flags) ∨
      instruction.buddy.isSet = true ∧
        ∃ guid, instruction.Candidate roles world guid ∧ instruction.Suits world guid ∧
          settled = ((roles.join instruction.flags guid).turn instruction.flags).aim
            instruction.flags := by
  have ready := row.decode_yields options instruction decoded
  have tidy := reached.tidy
  refine ⟨fun _ _ => Candidate.unique ready, fun around alone _ => suits_of_near tidy around alone,
    ?_⟩
  rcases resolve_cases ready tidy with
    ⟨unset, outcome⟩ | ⟨set, guid, candidate, suits, outcome⟩ | ⟨set, nobody, outcome⟩
  · rw [outcome, unset]
    simp [eq_comm]
  · rw [outcome, set]
    constructor
    · simp only [reduceCtorEq, true_and, false_iff]
      exact fun error lost => lost.1 guid candidate suits
    · intro settled
      simp only [Except.ok.injEq, reduceCtorEq, false_and, true_and, false_or]
      constructor
      · rintro rfl
        exact ⟨guid, candidate, suits, rfl⟩
      · rintro ⟨other, among, _, rfl⟩
        rw [candidate.unique ready among]
  · rw [outcome, set]
    constructor
    · simp only [Except.error.injEq, true_and]
      exact fun error => ⟨fun same => ⟨nobody, same.symm⟩, fun lost => lost.2.symm⟩
    · simp only [reduceCtorEq, false_and, true_and, false_or, false_iff]
      rintro settled ⟨guid, candidate, suits, _⟩
      exact nobody guid candidate suits

-- Two creatures of one spawn, the second of which has the lower guid.
def sharedSpawn : List Handling :=
  [.spawn .player 0 {}, .insert { guid := .creature 500 9, dbGuid := 777 },
    .insert { guid := .creature 500 4, dbGuid := 777 }]

def spawnWorld : World := sharedSpawn.foldl World.handle {}

theorem reached_spawnWorld : spawnWorld.Reached := ⟨sharedSpawn, by decide +kernel⟩

-- An emote for a creature found by its spawn, with all three steps to take.
def emoteRow : Row :=
  { command := 1, datalong := 10, buddyEntry := 500, searchRadiusOrGuid := 777, dataFlags := 0x17 }

def emoteBySpawn : Instruction where
  key := 0
  delay := 0
  command := .emote 10
  position := {}
  buddy := ⟨500, 777, .creature⟩
  flags :=
    { buddyAsTarget := true, reverse := true, sourceTargetsSelf := true, buddyByGuid := true }

theorem emoteBySpawn_roles :
    let roles : Roles := ⟨some (.player 1), none⟩
    let buddy : Guid := .creature 500 4
    emoteRow.decode {} = .ok emoteBySpawn ∧ spawnWorld.Reached ∧
      emoteBySpawn.resolve roles spawnWorld = .ok ⟨some buddy, some buddy⟩ ∧
      ∀ guid, emoteBySpawn.Candidate roles spawnWorld guid → guid = buddy := by
  intro roles buddy
  have decoded : emoteRow.decode {} = .ok emoteBySpawn := by decide +kernel
  obtain ⟨unique, _, _, settles⟩ := resolve_roles decoded reached_spawnWorld roles
  have settled : emoteBySpawn.resolve roles spawnWorld = .ok ⟨some buddy, some buddy⟩ := by
    decide +kernel
  refine ⟨decoded, reached_spawnWorld, settled, fun guid candidate => ?_⟩
  rcases (settles _).mp settled with ⟨unset, _⟩ | ⟨_, found, among, _, same⟩
  · cases unset
  · cases unique guid found candidate among
    have named : buddy = guid := by
      simpa [Roles.join, Roles.turn, Roles.aim, emoteBySpawn] using same
    exact named.symm

end Instruction

end WorldScripts
