import WorldScripts.Proofs.Decode.Provenance

/-!
The two ways to write down the buddy of a row. Eleven commands know the older one, in columns that they
use for nothing else. So it does not matter which of the two a row chooses, and a row that uses both has
to say the same in both.
-/

namespace WorldScripts

inductive Spelling where
  | older
  | own
  | both
  deriving DecidableEq

namespace Row

/-- The row with a buddy, written down there and nowhere else. -/
def spell (row : Row) (buddy : UInt32 × UInt32) : Spelling → Row
  | .older =>
      { row with datalong2 := buddy.1, datalong3 := buddy.2, buddyEntry := 0, searchRadiusOrGuid := 0 }
  | .own =>
      { row with datalong2 := 0, datalong3 := 0, buddyEntry := buddy.1, searchRadiusOrGuid := buddy.2 }
  | .both =>
      { row with
        datalong2 := buddy.1
        datalong3 := buddy.2
        buddyEntry := buddy.1
        searchRadiusOrGuid := buddy.2 }

/-- Both spellings are in use, and they do not say the same. -/
def Disagrees (row : Row) : Prop :=
  row.legacyBuddy ≠ (0, 0) ∧ row.rowBuddy ≠ (0, 0) ∧ row.rowBuddy ≠ row.legacyBuddy

variable {row : Row} {options : DecodeOptions} {tag : Tag} {flags : RowFlags}

theorem decodeHead_spell (row : Row) (buddy : UInt32 × UInt32) (spelling : Spelling) :
    (row.spell buddy spelling).decodeHead = row.decodeHead := by
  cases spelling <;> rfl

theorem effectiveBuddy_spell (legacy : tag.traits.legacyBuddy = true) (row : Row)
    (buddy : UInt32 × UInt32) (spelling : Spelling) :
    (row.spell buddy spelling).effectiveBuddy tag.traits = .ok buddy := by
  unfold effectiveBuddy
  by_cases nobody : buddy = (0, 0)
  · subst nobody
    cases spelling <;> simp [spell, rowBuddy, legacyBuddy]
  · cases spelling with
    | own => simp [spell, rowBuddy, legacyBuddy]
    | older | both => simp [spell, rowBuddy, legacyBuddy, legacy, nobody]

theorem buddy_spell (legacy : tag.traits.legacyBuddy = true) (row : Row) (buddy : UInt32 × UInt32)
    (spelling : Spelling) (options : DecodeOptions) (flags : RowFlags) :
    (row.spell buddy spelling).buddy options tag.traits flags =
      match buddyFault? options flags buddy.1 buddy.2 with
      | some fault => .error fault
      | none => .ok ⟨buddy.1, buddy.2, tag.traits.buddy⟩ := by
  unfold Row.buddy
  rw [effectiveBuddy_spell legacy]
  rfl

-- A command that knows the older spelling takes nothing else from the columns of it.
theorem decodeCommand_spell (legacy : tag.traits.legacyBuddy = true) (row : Row)
    (buddy : UInt32 × UInt32) (spelling : Spelling) (flags : RowFlags) :
    (row.spell buddy spelling).decodeCommand flags tag = row.decodeCommand flags tag := by
  -- The first alternative is for the commands that do not know it.
  cases tag <;> first | exact absurd legacy (by decide) | (cases spelling <;> rfl)

example : (Tag.all.filter fun tag => tag.traits.legacyBuddy).length = 11 := by decide

theorem decode_spell (number : tag.number = row.command.toNat)
    (legacy : tag.traits.legacyBuddy = true) (buddy : UInt32 × UInt32) (spelling : Spelling)
    (options : DecodeOptions) :
    (row.spell buddy spelling).decode options = (row.spell buddy .own).decode options := by
  unfold decode
  rw [decodeHead_spell, decodeHead_spell]
  rcases row.decodeHead_cases options with ⟨named, flags, head, same, _⟩ | ⟨error, head, _⟩
  · obtain rfl : named = tag := Tag.number_inj (same.trans number.symm)
    rw [head, ok_bind, ok_bind]
    dsimp only
    rw [buddy_spell legacy, buddy_spell legacy, decodeCommand_spell legacy,
      decodeCommand_spell legacy]
    cases spelling <;> rfl
  · rw [head]
    rfl

-- The buddy that is written down is the one that is looked for.
theorem decode_spell_yields (number : tag.number = row.command.toNat)
    (legacy : tag.traits.legacyBuddy = true) (buddy : UInt32 × UInt32) (spelling : Spelling)
    (options : DecodeOptions) :
    Yields ((row.spell buddy spelling).decode options) fun instruction =>
      instruction.buddy = ⟨buddy.1, buddy.2, tag.traits.buddy⟩ := by
  unfold decode
  rw [yields_bind, decodeHead_spell]
  rintro ⟨named, flags⟩ head
  obtain rfl : named = tag := Tag.number_inj ((decodeHead_yields _ head).1.trans number.symm)
  dsimp only
  rw [yields_bind, yields_mapError, buddy_spell legacy]
  split
  · exact yields_error _
  · rw [yields_ok, yields_bind]
    intro command _
    exact (yields_ok _).mpr rfl

theorem buddy_of_disagrees (legacy : tag.traits.legacyBuddy = true) (disagrees : row.Disagrees)
    (options : DecodeOptions) (flags : RowFlags) :
    row.buddy options tag.traits flags =
      .error (.disagreement row.datalong2 row.datalong3 row.buddyEntry row.searchRadiusOrGuid) := by
  obtain ⟨older, own, apart⟩ := disagrees
  simp [Row.buddy, effectiveBuddy, legacy, older, own, apart, error_bind]

theorem place_of_decodeHead {error : DecodeError} (refused : row.decodeHead = .error error) :
    error.check.place < Check.place .buddy := by
  unfold decodeHead at refused
  repeat' split at refused
  all_goals cases refused
  all_goals simp [DecodeError.check, Check.place]

/-- It makes no difference in which spelling a row names its buddy. Where the two spellings disagree and
nothing was wrong before the buddy, that is the fault that is reported. -/
theorem decode_spellings (number : tag.number = row.command.toNat)
    (legacy : tag.traits.legacyBuddy = true) (options : DecodeOptions) :
    (∀ buddy spelling other,
      (row.spell buddy spelling).decode options = (row.spell buddy other).decode options ∧
        ∀ instruction, (row.spell buddy spelling).decode options = .ok instruction →
          instruction.buddy = ⟨buddy.1, buddy.2, tag.traits.buddy⟩) ∧
    (row.Disagrees → (∀ check : Check, check.place < Check.place .buddy → row.Meets options check) →
      row.decode options = .error (.malformedBuddy row.id tag
        (.disagreement row.datalong2 row.datalong3 row.buddyEntry row.searchRadiusOrGuid))) := by
  constructor
  · intro buddy spelling other
    constructor
    · rw [decode_spell number legacy buddy spelling, decode_spell number legacy buddy other]
    · exact decode_spell_yields number legacy buddy spelling options
  · intro disagrees sound
    unfold decode
    rcases row.decodeHead_cases options with ⟨named, flags, head, same, _⟩ | ⟨error, head, _, unmet⟩
    · obtain rfl : named = tag := Tag.number_inj (same.trans number.symm)
      rw [head, ok_bind]
      dsimp only
      rw [buddy_of_disagrees legacy disagrees]
      rfl
    · exact absurd (sound error.check (place_of_decodeHead head)) unmet.1

def legacyRow : Row where
  id := 7
  command := 1
  datalong := 10

def disagreeingRow : Row :=
  { legacyRow with datalong2 := 3000, datalong3 := 30, buddyEntry := 4000, searchRadiusOrGuid := 30 }

theorem legacyRow_spellings :
    Tag.emote.number = legacyRow.command.toNat ∧ Tag.emote.traits.legacyBuddy = true ∧
      (legacyRow.spell (3000, 30) .older).decode {} = (legacyRow.spell (3000, 30) .own).decode {} ∧
      ((legacyRow.spell (3000, 30) .own).decode {}).isOk = true ∧
      ((legacyRow.spell (0, 30) .both).decode {}).isOk = false ∧
      disagreeingRow.decode {} = .error (.malformedBuddy 7 .emote (.disagreement 3000 30 4000 30)) := by
  have number : Tag.emote.number = legacyRow.command.toNat := by decide
  have number' : Tag.emote.number = disagreeingRow.command.toNat := number
  have legacy : Tag.emote.traits.legacyBuddy = true := by decide
  have disagrees : disagreeingRow.Disagrees := by
    unfold Disagrees
    decide
  have sound : MetBefore (disagreeingRow.Meets {}) .buddy := by
    rcases disagreeingRow.decodeHead_cases {} with ⟨_, _, _, _, _, sound⟩ | ⟨error, head, _⟩
    · exact sound
    · cases head
  exact ⟨number, legacy, ((decode_spellings number legacy {}).1 (3000, 30) .older .own).1,
    by decide +kernel, by decide +kernel,
    (decode_spellings number' legacy {}).2 disagrees sound⟩

end Row

end WorldScripts
