import WorldScripts.Proofs.Decode.Acceptance

/-!
What is known of an instruction that was read from a row: its command is the one that the row names,
with the values of the row as far as its execution relies on them, and there is no more than one way to
look for its buddy.
-/

namespace WorldScripts

def Yields {ε α : Type} (read : Except ε α) (sound : α → Prop) : Prop :=
  ∀ value, read = .ok value → sound value

section

variable {ε α β : Type} {sound : α → Prop}

@[simp] theorem yields_ok (value : α) : Yields (.ok value : Except ε α) sound ↔ sound value := by
  simp [Yields]

@[simp] theorem yields_error (fault : ε) : Yields (.error fault : Except ε α) sound := by
  simp [Yields]

@[simp] theorem yields_bind {sound : β → Prop} (first : Except ε α) (next : α → Except ε β) :
    Yields (first >>= next) sound ↔ Yields first fun value => Yields (next value) sound := by
  cases first with
  | error fault => simp [error_bind]
  | ok value => simp [ok_bind]

@[simp] theorem yields_map {sound : β → Prop} (read : Except ε α) (f : α → β) :
    Yields (f <$> read) sound ↔ Yields read fun value => sound (f value) := by
  rw [map_eq_pure_bind, yields_bind]
  exact forall_congr' fun value => imp_congr_right fun _ => yields_ok (f value)

@[simp] theorem yields_ite {choice : Prop} [Decidable choice] (yes no : Except ε α) :
    Yields (if choice then yes else no) sound ↔
      (choice → Yields yes sound) ∧ (¬ choice → Yields no sound) := by
  by_cases chosen : choice <;> simp [chosen]

@[simp] theorem yields_anything (read : Except ε α) : Yields read fun _ => True :=
  fun _ _ => trivial

@[simp] theorem yields_mapError {δ : Type} (read : Except ε α) (f : ε → δ) :
    Yields (read.mapError f) sound ↔ Yields read sound := by
  cases read <;> simp [Except.mapError]

@[simp] theorem yields_nonzero {sound : UInt32 → Prop} (what : String) (n : UInt32) :
    Yields (Row.nonzero what n) sound ↔ (n ≠ 0 → sound n) := by
  simp [Row.nonzero]

end

/-- The command has the values of the row, where its execution relies on them. -/
def Command.IsFrom (row : Row) : Command → Prop
  | .talk _ _ texts => texts = row.texts ∧ row.dataint ≠ 0
  | .moveDynamic maxDistance minDistance =>
      maxDistance = row.datalong ∧ minDistance = row.datalong2 ∧
        (maxDistance ≠ 0 → minDistance ≤ maxDistance)
  | .sendMail _ _ delay => delay = row.dataint ∧ 0 ≤ delay
  | _ => True

namespace Row

variable {row : Row} {options : DecodeOptions} {tag : Tag} {flags : RowFlags}

@[simp] theorem yields_point {sound : Unit → Prop} :
    Yields row.requirePoint sound ↔ (row.position.onMap = true → sound ()) := by
  simp [requirePoint]

theorem decodeValues?_yields {read : Except ValueFault Command}
    (values : row.decodeValues? flags tag = some read) :
    Yields read fun command => command.tag = tag ∧ command.IsFrom row := by
  cases tag with
  | reserved => cases values
  | talk =>
      cases values
      unfold decodeTalk
      split
      · exact yields_error _
      · rw [yields_ite]
        refine ⟨fun _ => yields_error _, fun first => ?_⟩
        split
        · exact yields_error _
        · exact (yields_ok _).mpr ⟨rfl, rfl, first⟩
  | movement | goLockState | modifyNpcFlags | updateTemplate =>
      cases values
      simp only [decodeMovement, decodeLock, decodeNpcFlags, decodeTemplate]
      split <;> simp [Command.tag, Command.IsFrom]
  | moveTo =>
      cases values
      simp [Command.tag, Command.IsFrom]
  | moveDynamic =>
      cases values
      rw [yields_ite]
      refine ⟨fun _ => yields_error _,
        fun apart => (yields_ok _).mpr ⟨rfl, rfl, rfl, fun limit => ?_⟩⟩
      exact UInt32.not_lt.mp fun less => apart ⟨limit, less⟩
  | sendMail =>
      cases values
      simp only [yields_ite, yields_bind, yields_nonzero, yields_ok]
      exact ⟨fun _ => yields_error _, fun late _ => ⟨rfl, rfl, Int32.not_lt.mp late⟩⟩
  | _ =>
      -- The other values are of no consequence later on.
      cases values
      simp only [decodeCast, decodeSound, yields_bind, yields_map, yields_nonzero, yields_point,
        yields_ite, yields_error, yields_ok, implies_true, true_and, and_true]
      intros
      exact ⟨rfl, trivial⟩

theorem buddy_yields : Yields (row.buddy options tag.traits flags) fun _ =>
    ¬ (flags.buddyByGuid = true ∧ flags.buddyIsPet = true) := by
  rw [buddy, yields_bind]
  rintro ⟨entry, radiusOrGuid⟩ spelt
  dsimp only
  split
  · exact yields_error _
  · rename_i faultless
    refine (yields_ok _).mpr ?_
    rintro ⟨byGuid, isPet⟩
    unfold buddyFault? at faultless
    by_cases nobody : entry = 0
    · by_cases anywhere : radiusOrGuid = 0 <;> simp_all [RowFlags.searchesBuddy]
    · simp_all

theorem decodeHead_yields : Yields row.decodeHead fun head =>
    head.1.number = row.command.toNat ∧ head.1 ≠ .reserved := by
  unfold decodeHead
  split
  · exact yields_error _
  · rename_i tag named
    rw [yields_ite]
    refine ⟨fun _ => yields_error _, fun loadable => ?_⟩
    have number := (Tag.ofNumber?_eq_some _ _).mp named
    have loads : tag ≠ .reserved := by
      rintro rfl
      exact loadable rfl
    split
    · exact yields_error _
    · rw [yields_ite]
      exact ⟨fun _ => yields_error _, fun _ => (yields_ok _).mpr ⟨number, loads⟩⟩

end Row

/-- What the execution of an instruction relies on. -/
structure Instruction.Ready (instruction : Instruction) (row : Row) : Prop where
  tag : instruction.tag.number = row.command.toNat
  loads : instruction.tag ≠ .reserved
  command : instruction.command.IsFrom row
  search : ¬ (instruction.flags.buddyByGuid = true ∧ instruction.flags.buddyIsPet = true)

theorem Row.decode_yields (row : Row) (options : DecodeOptions) :
    Yields (row.decode options) fun instruction => instruction.Ready row := by
  unfold decode
  rw [yields_bind]
  rintro ⟨tag, flags⟩ head
  obtain ⟨number, loads⟩ := decodeHead_yields _ head
  simp only [yields_bind, yields_mapError]
  intro buddy found
  have search := buddy_yields _ found
  unfold decodeCommand
  cases values : row.decodeValues? flags tag with
  | none => exact yields_error _
  | some read =>
      rw [yields_mapError]
      intro command decoded
      obtain ⟨rfl, fromRow⟩ := decodeValues?_yields values _ decoded
      exact (yields_ok _).mpr ⟨number, loads, fromRow, search⟩

end WorldScripts
