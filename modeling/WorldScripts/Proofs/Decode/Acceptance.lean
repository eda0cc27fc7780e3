import WorldScripts.Proofs.Decode.Domain

/-!
Which rows are read, and what is wrong with the others. Six things are asked of a row, none of them
told by the way it is read. A row is read just when it meets all of them, and otherwise the first one
that it does not meet is what is reported.
-/

namespace WorldScripts

/-- What is asked of a row, in the order in which faults are reported. -/
inductive Check where
  | known
  | loadable
  | flags
  | additional
  | buddy
  | values
  deriving DecidableEq

def Check.place : Check → Nat
  | .known => 0
  | .loadable => 1
  | .flags => 2
  | .additional => 3
  | .buddy => 4
  | .values => 5

theorem Check.place_inj {check other : Check} (same : check.place = other.place) : check = other := by
  cases check <;> cases other <;> first | rfl | cases same

theorem Check.place_le (check : Check) : check.place ≤ Check.place .values := by
  cases check <;> decide

section

variable {met : Check → Prop}

def MetBefore (met : Check → Prop) (check : Check) : Prop :=
  ∀ earlier : Check, earlier.place < check.place → met earlier

/-- Everything is met, or else the given check is the first one that is not. -/
def FirstUnmet (met : Check → Prop) : Option Check → Prop
  | none => ∀ check, met check
  | some check => ¬ met check ∧ MetBefore met check

theorem metBefore_known : MetBefore met .known := by
  intro earlier before
  exact absurd before (Nat.not_lt_zero _)

theorem MetBefore.next {check next : Check} (before : MetBefore met check) (holds : met check)
    (follows : next.place = check.place + 1) : MetBefore met next := by
  intro earlier less
  rcases Nat.lt_or_eq_of_le (Nat.le_of_lt_succ (follows ▸ less)) with less | same
  · exact before earlier less
  · rwa [Check.place_inj same]

theorem MetBefore.all (before : MetBefore met .values) (holds : met .values) :
    FirstUnmet met none := by
  intro check
  rcases Nat.lt_or_eq_of_le check.place_le with less | same
  · exact before check less
  · rwa [Check.place_inj same]

theorem FirstUnmet.unique {first second : Option Check} (one : FirstUnmet met first)
    (other : FirstUnmet met second) : first = second := by
  cases first with
  | none =>
      cases second with
      | none => rfl
      | some check => exact absurd (one check) other.1
  | some check =>
      cases second with
      | none => exact absurd (other check) one.1
      | some check' =>
          rcases Nat.lt_trichotomy check.place check'.place with less | same | greater
          · exact absurd (other.2 check less) one.1
          · rw [Check.place_inj same]
          · exact absurd (one.2 check' greater) other.1

end

/-- What a row that is rejected for this reason does not meet. -/
def DecodeError.check : DecodeError → Check
  | .unknownCommand .. => .known
  | .reservedCommand .. => .loadable
  | .undefinedFlags .. => .flags
  | .additionalUnsupported .. => .additional
  | .malformedBuddy .. => .buddy
  | .invalidValue .. => .values

namespace Row

/-- The buddy of a row: in the older spelling if the command has one and the row uses it. -/
def namedBuddy (row : Row) (tag : Tag) : UInt32 × UInt32 :=
  if tag.traits.legacyBuddy = true ∧ row.legacyBuddy ≠ (0, 0) then row.legacyBuddy else row.rowBuddy

/-- The columns and flags of a row name a buddy, or consistently name none. -/
structure NamesBuddy (row : Row) (options : DecodeOptions) (tag : Tag) : Prop where
  -- A buddy may be meant as target (0x01), or be found by guid (0x10), as pet (0x20) or despawned (0x40).
  agreed : tag.traits.legacyBuddy = true → row.legacyBuddy ≠ (0, 0) →
    row.rowBuddy = (0, 0) ∨ row.rowBuddy = row.legacyBuddy
  nobody : (row.namedBuddy tag).1 = 0 → (row.namedBuddy tag).2 = 0 ∧
    ¬ row.Has 0x01 ∧ ¬ row.Has 0x10 ∧ ¬ row.Has 0x20 ∧ ¬ row.Has 0x40
  byGuid : (row.namedBuddy tag).1 ≠ 0 → row.Has 0x10 → ¬ row.Has 0x20 ∧ (row.namedBuddy tag).2 ≠ 0
  nearby : (row.namedBuddy tag).1 ≠ 0 → ¬ row.Has 0x10 → ¬ row.Has 0x20 →
    (row.namedBuddy tag).2 ≠ 0 ∧ ¬ options.maxSearchRadius < (row.namedBuddy tag).2.toFloat32

def Meets (row : Row) (options : DecodeOptions) : Check → Prop
  | .known => row.command.toNat ≤ 44
  | .loadable => row.command.toNat ≠ 33
  | .flags => ¬ row.Has 0x80
  | .additional =>
      row.Has 0x08 → ∀ tag : Tag, tag.number = row.command.toNat → tag.traits.additional = true
  | .buddy => ∀ tag : Tag, tag.number = row.command.toNat → row.NamesBuddy options tag
  | .values => ∀ tag : Tag, tag.number = row.command.toNat → row.InDomain tag

end Row

namespace Tag

theorem number_inj {tag other : Tag} (same : tag.number = other.number) : tag = other := by
  have found := getElem?_all_number tag
  rw [same, getElem?_all_number] at found
  exact (Option.some.inj found).symm

theorem ofNumber?_eq_some (n : UInt32) (tag : Tag) :
    ofNumber? n = some tag ↔ tag.number = n.toNat := by
  constructor
  · intro found
    have distinct : all.Nodup := by decide
    have bound := (List.getElem?_eq_some_iff.mp found).1
    exact ((List.getElem?_inj bound distinct).mp
      (found.trans (getElem?_all_number tag).symm)).symm
  · intro number
    rw [ofNumber?, ← number]
    exact getElem?_all_number tag

theorem ofNumber?_eq_none (n : UInt32) : ofNumber? n = none ↔ ¬ n.toNat ≤ 44 := by
  rw [ofNumber?, List.getElem?_eq_none_iff, Nat.not_le]
  rfl

theorem forall_number {tag : Tag} {n : Nat} (number : tag.number = n) (rule : Tag → Prop) :
    (∀ other : Tag, other.number = n → rule other) ↔ rule tag := by
  constructor
  · intro all
    exact all tag number
  · intro one other same
    rwa [number_inj (same.trans number.symm)]

theorem loadable_iff (tag : Tag) : tag.traits.loadable = true ↔ tag.number ≠ 33 := by
  cases tag <;> decide

end Tag

namespace Row

variable {row : Row} {options : DecodeOptions} {tag : Tag} {flags : RowFlags}

-- Either the two spellings go together, or the row is at fault.
theorem effectiveBuddy_cases (row : Row) (tag : Tag) :
    row.effectiveBuddy tag.traits = .ok (row.namedBuddy tag) ∧
      (tag.traits.legacyBuddy = true → row.legacyBuddy ≠ (0, 0) →
        row.rowBuddy = (0, 0) ∨ row.rowBuddy = row.legacyBuddy) ∨
      (∃ fault, row.effectiveBuddy tag.traits = .error fault) ∧
        tag.traits.legacyBuddy = true ∧ row.legacyBuddy ≠ (0, 0) ∧
        ¬ (row.rowBuddy = (0, 0) ∨ row.rowBuddy = row.legacyBuddy) := by
  unfold effectiveBuddy namedBuddy
  by_cases legacy : tag.traits.legacyBuddy = true ∧ row.legacyBuddy ≠ (0, 0)
  · rw [if_neg (by simpa using legacy), if_pos legacy]
    by_cases agreed : row.rowBuddy = (0, 0) ∨ row.rowBuddy = row.legacyBuddy
    · left
      rw [if_pos (by simpa using agreed)]
      exact ⟨rfl, fun _ _ => agreed⟩
    · right
      rw [if_neg (by simpa using agreed)]
      exact ⟨⟨_, rfl⟩, legacy.1, legacy.2, agreed⟩
  · left
    rw [if_pos (by simpa [Decidable.or_iff_not_imp_left] using legacy), if_neg legacy]
    exact ⟨rfl, fun spelt used => absurd ⟨spelt, used⟩ legacy⟩

theorem buddyFault?_eq_none (reads : flags.Reads row) (options : DecodeOptions)
    (entry radius : UInt32) :
    buddyFault? options flags entry radius = none ↔
      (entry = 0 → radius = 0 ∧
        ¬ row.Has 0x01 ∧ ¬ row.Has 0x10 ∧ ¬ row.Has 0x20 ∧ ¬ row.Has 0x40) ∧
      (entry ≠ 0 → row.Has 0x10 → ¬ row.Has 0x20 ∧ radius ≠ 0) ∧
      (entry ≠ 0 → ¬ row.Has 0x10 → ¬ row.Has 0x20 →
        radius ≠ 0 ∧ ¬ options.maxSearchRadius < radius.toFloat32) := by
  rw [← reads.buddyAsTarget, ← reads.buddyByGuid, ← reads.buddyIsPet, ← reads.buddyIsDespawned]
  unfold buddyFault? RowFlags.searchesBuddy
  by_cases nobody : entry = 0
  · -- Without an entry every flag of a buddy is a fault.
    by_cases radius = 0 <;> cases flags.buddyAsTarget <;> cases flags.buddyByGuid <;>
      cases flags.buddyIsPet <;> cases flags.buddyIsDespawned <;> simp [*]
  · cases flags.buddyByGuid <;> cases flags.buddyIsPet <;> simp [*]

theorem isOk_buddy (reads : flags.Reads row) :
    (row.buddy options tag.traits flags).isOk = true ↔ row.NamesBuddy options tag := by
  rcases row.effectiveBuddy_cases tag with
    ⟨spelt, agreed⟩ | ⟨⟨fault, refused⟩, legacy, used, apart⟩
  · have sound := buddyFault?_eq_none reads options (row.namedBuddy tag).1 (row.namedBuddy tag).2
    rw [buddy, spelt, ok_bind]
    constructor
    · intro accepted
      dsimp only at accepted
      split at accepted
      · cases accepted
      · rename_i faultless
        obtain ⟨nobody, byGuid, nearby⟩ := sound.mp faultless
        exact ⟨agreed, nobody, byGuid, nearby⟩
    · intro names
      dsimp only
      rw [sound.mpr ⟨names.nobody, names.byGuid, names.nearby⟩]
      rfl
  · rw [buddy, refused, error_bind]
    constructor
    · intro accepted
      cases accepted
    · intro names
      exact absurd (names.agreed legacy used) apart

theorem decodeHead_cases (row : Row) (options : DecodeOptions) :
    (∃ tag flags, row.decodeHead = .ok (tag, flags) ∧ tag.number = row.command.toNat ∧
      flags.Reads row ∧ MetBefore (row.Meets options) .buddy) ∨
    ∃ error, row.decodeHead = .error error ∧ error.key = row.id ∧
      FirstUnmet (row.Meets options) (some error.check) := by
  unfold decodeHead
  cases named : Tag.ofNumber? row.command with
  | none =>
      right
      exact ⟨_, rfl, rfl, (Tag.ofNumber?_eq_none _).mp named, metBefore_known⟩
  | some tag =>
      -- What is met so far grows check by check, and a fault is reported with just that.
      have number := (Tag.ofNumber?_eq_some _ _).mp named
      have known : MetBefore (row.Meets options) .loadable := by
        refine metBefore_known.next ?_ rfl
        rw [Meets, ← number]
        exact Nat.le_of_lt_succ tag.number_lt
      have loadable : row.Meets options .loadable ↔ tag.traits.loadable = true := by
        rw [Meets, ← number]
        exact tag.loadable_iff.symm
      dsimp only
      by_cases loads : tag.traits.loadable = true
      · rw [if_neg (by simp [loads])]
        have loaded : MetBefore (row.Meets options) .flags := known.next (loadable.mpr loads) rfl
        cases bits : RowFlags.ofByte? row.dataFlags with
        | none =>
            right
            exact ⟨_, rfl, rfl, not_not_intro ((ofByte?_eq_none row).mp bits), loaded⟩
        | some flags =>
            have reads := reads_of_ofByte? bits
            have defined : MetBefore (row.Meets options) .additional := by
              refine loaded.next (fun undefined => ?_) rfl
              rw [(ofByte?_eq_none row).mpr undefined] at bits
              cases bits
            have additional : row.Meets options .additional ↔
                ¬ (flags.additional && !tag.traits.additional) = true := by
              rw [Meets, Tag.forall_number number fun tag => tag.traits.additional = true,
                ← reads.additional]
              simp
            dsimp only
            by_cases extra : (flags.additional && !tag.traits.additional) = true
            · right
              rw [if_pos extra]
              exact ⟨_, rfl, rfl, fun met => additional.mp met extra, defined⟩
            · left
              rw [if_neg extra]
              exact ⟨tag, flags, rfl, number, reads, defined.next (additional.mpr extra) rfl⟩
      · right
        rw [if_pos (by simp [loads])]
        exact ⟨_, rfl, rfl, fun met => loads (loadable.mp met), known⟩

-- The first check that is not met is the one that is reported.
theorem decode_cases (row : Row) (options : DecodeOptions) :
    (∃ instruction, row.decode options = .ok instruction ∧ FirstUnmet (row.Meets options) none) ∨
    ∃ error, row.decode options = .error error ∧ error.key = row.id ∧
      FirstUnmet (row.Meets options) (some error.check) := by
  unfold decode
  rcases row.decodeHead_cases options with
    ⟨tag, flags, head, number, reads, met⟩ | ⟨error, head, rest⟩
  · have buddy : row.Meets options .buddy ↔ (row.buddy options tag.traits flags).isOk = true := by
      rw [Meets, Tag.forall_number number, isOk_buddy reads]
    have loads : tag ≠ .reserved := by
      rintro rfl
      exact met .loadable (by decide) number.symm
    obtain ⟨read, decoded, sound⟩ := row.isOk_decodeValues? reads loads
    have values : row.Meets options .values ↔ read.isOk = true := by
      rw [Meets, Tag.forall_number number, sound]
    have command : row.decodeCommand flags tag = read.mapError (.invalidValue row.id tag) := by
      rw [decodeCommand, decoded]
    rw [head, ok_bind]
    simp only [command]
    cases found : row.buddy options tag.traits flags with
    | error fault =>
        right
        refine ⟨_, rfl, rfl, fun holds => ?_, met⟩
        have named := buddy.mp holds
        rw [found] at named
        cases named
    | ok buddy' =>
        have named : MetBefore (row.Meets options) .values :=
          met.next (buddy.mpr (by rw [found]; rfl)) rfl
        cases read with
        | error fault =>
            right
            refine ⟨_, rfl, rfl, fun holds => ?_, named⟩
            cases values.mp holds
        | ok command =>
            left
            exact ⟨_, rfl, named.all (values.mpr rfl)⟩
  · right
    rw [head, error_bind]
    exact ⟨error, rfl, rest⟩

end Row

/-- A row is read just when it meets all that is asked of it. Otherwise the error, which names the row,
is for the first check that the row does not meet. -/
theorem Row.decode_iff (row : Row) (options : DecodeOptions) :
    ((∃ instruction, row.decode options = .ok instruction) ↔
      ∀ check, row.Meets options check) ∧
    ∀ check, (∃ error, row.decode options = .error error ∧ error.key = row.id ∧
        error.check = check) ↔
      ¬ row.Meets options check ∧
        ∀ earlier : Check, earlier.place < check.place → row.Meets options earlier := by
  rcases row.decode_cases options with ⟨instruction, read, met⟩ | ⟨error, refused, key, unmet⟩
  · refine ⟨⟨fun _ => met, fun _ => ⟨instruction, read⟩⟩, fun check => ⟨?_, ?_⟩⟩
    · rintro ⟨error, refused, _⟩
      rw [read] at refused
      cases refused
    · intro unmet
      exact absurd (met check) unmet.1
  · refine ⟨⟨?_, fun met => absurd (met error.check) unmet.1⟩, fun check => ⟨?_, ?_⟩⟩
    · rintro ⟨instruction, read⟩
      rw [refused] at read
      cases read
    · rintro ⟨error', refused', _, rfl⟩
      rw [refused] at refused'
      cases refused'
      exact unmet
    · intro first
      have same : some error.check = some check := unmet.unique first
      exact ⟨error, refused, key, Option.some.inj same⟩

end WorldScripts
