import WorldScripts.Decode
import WorldScripts.Proofs.Binary32.Whole

/-!
The values that a command may be given. They are told in terms of whole numbers, as a rule for every
command, and reading a row succeeds for just these values. Distances are compared as binary32 numbers
when a row is read; the rules need no rounding.
-/

namespace WorldScripts

def IsTextId (id : Int32) : Prop :=
  (-4000000 < id.toInt ∧ id.toInt ≤ -1000000) ∨ (2000000000 ≤ id.toInt ∧ id.toInt ≤ 2000010000)

def Position.OnMap (position : Position) : Prop :=
  (∀ coordinate ∈ [position.x, position.y, position.z, position.o], coordinate.isFinite = true) ∧
    ∀ coordinate ∈ [position.x, position.y], coordinate.abs ≤ mapHalfSize

namespace Row

def Has (row : Row) (bit : UInt8) : Prop :=
  row.dataFlags &&& bit ≠ 0

/-- What a command asks of the columns of its row. -/
def InDomain (row : Row) : Tag → Prop
  | .talk =>
      row.datalong.toNat < 8 ∧ row.dataint ≠ 0 ∧
        ∀ id ∈ [row.dataint, row.dataint2, row.dataint3, row.dataint4], id ≠ 0 → IsTextId id
  | .emote | .killCredit | .respawnGameObject | .openDoor | .closeDoor | .removeAura | .sendTaxiPath
  | .terminateCond => row.datalong ≠ 0
  | .moveTo => ¬ row.Has 0x08 → row.position.OnMap
  | .teleportTo => row.position.OnMap
  | .tempSummonCreature => row.position.OnMap ∧ row.datalong ≠ 0
  | .questExplored => row.datalong ≠ 0 ∧ row.datalong2.toNat ≤ 166
  | .castSpell => row.datalong ≠ 0 ∧ row.datalong2.toNat ≤ 7
  | .playSound => row.datalong ≠ 0 ∧ row.datalong2.toNat ≤ 3
  | .createItem => row.datalong ≠ 0 ∧ row.datalong2 ≠ 0
  | .movement => row.datalong.toNat < 3
  | .goLockState =>
      -- An object is not locked and unlocked, nor made usable and unusable.
      row.datalong ≠ 0 ∧ row.datalong.toNat < 16 ∧ row.datalong &&& 3 ≠ 3 ∧
        row.datalong &&& 12 ≠ 12
  | .standState => row.datalong.toNat < 10
  | .modifyNpcFlags => row.datalong2.toNat ≤ 2
  | .terminateScript =>
      -- Zero looks for nobody, and then the distance does not matter.
      row.datalong ≠ 0 → 1 ≤ row.datalong2.toNat ∧ row.datalong2.toNat ≤ 166
  | .sendAiEvent =>
      row.datalong.toNat < 8 ∨ (100 ≤ row.datalong.toNat ∧ row.datalong.toNat ≤ 105)
  | .moveDynamic =>
      -- Zero is no limit to the distance.
      row.datalong ≠ 0 → row.datalong2.toNat ≤ row.datalong.toNat
  | .sendMail => row.datalong ≠ 0 ∧ 0 ≤ row.dataint.toInt
  | .updateTemplate => row.datalong ≠ 0 ∧ row.datalong2.toNat ≤ 1
  | .fieldSet | .flagSet | .flagRemove | .activateObject | .despawnSelf | .playMovie
  | .setActiveObject | .setFaction | .morph | .mount | .setRun | .attackStart | .pauseWaypoints
  | .reserved | .setFacing | .setFly | .despawnGameObject | .respawn | .setEquipment
  | .resetGameObject => True

end Row

theorem Position.onMap_iff (position : Position) : position.onMap = true ↔ position.OnMap := by
  simp [Position.onMap, Position.OnMap, and_assoc]

theorem ofId?_eq_none (id : Int32) : TextRange.ofId? id = none ↔ ¬ IsTextId id := by
  have bounds : (2000000000 : Int32).toInt = 2000000000 ∧ (2000010000 : Int32).toInt = 2000010000 ∧
      (-1000000 : Int32).toInt = -1000000 ∧ (-2000000 : Int32).toInt = -2000000 ∧
      (-3000000 : Int32).toInt = -3000000 ∧ (-4000000 : Int32).toInt = -4000000 := by decide
  unfold TextRange.ofId? IsTextId
  simp only [Int32.le_iff_toInt_le, Int32.lt_iff_toInt_lt, bounds]
  -- One case for each range, and one for what lies between them.
  repeat' split
  all_goals simp; omega

section

variable {ε α β : Type}

@[simp] theorem isOk_ok (value : α) : (Except.ok value : Except ε α).isOk = true := rfl

@[simp] theorem isOk_error (fault : ε) : (Except.error fault : Except ε α).isOk = false := rfl

theorem ok_bind (value : α) (next : α → Except ε β) : (Except.ok value >>= next) = next value := rfl

theorem error_bind (fault : ε) (next : α → Except ε β) :
    (Except.error fault >>= next) = .error fault := rfl

@[simp] theorem isOk_map (f : α → β) (read : Except ε α) : (f <$> read).isOk = read.isOk := by
  cases read <;> rfl

theorem isOk_refuse {refused : Prop} [Decidable refused] (fault : ε) (read : Except ε α) :
    (if refused then .error fault else read).isOk = true ↔ ¬ refused ∧ read.isOk = true := by
  split <;> simp [*]

theorem isOk_accept {accepted : Prop} [Decidable accepted] (value : α) (fault : ε) :
    (if accepted then .ok value else .error fault : Except ε α).isOk = true ↔ accepted := by
  split <;> simp [*]

end

/-- The state is one that an object can be brought into. -/
def LockState.isSound (state : LockState) : Bool :=
  !state.isEmpty && !state.contradicts

structure RowFlags.Reads (flags : RowFlags) (row : Row) : Prop where
  buddyAsTarget : flags.buddyAsTarget = true ↔ row.Has 0x01
  additional : flags.additional = true ↔ row.Has 0x08
  buddyByGuid : flags.buddyByGuid = true ↔ row.Has 0x10
  buddyIsPet : flags.buddyIsPet = true ↔ row.Has 0x20
  buddyIsDespawned : flags.buddyIsDespawned = true ↔ row.Has 0x40

namespace Row

variable {α : Type} (row : Row)

theorem ofByte?_eq_none : RowFlags.ofByte? row.dataFlags = none ↔ row.Has 0x80 := by
  unfold RowFlags.ofByte? Has
  split <;> simp [*]

theorem reads_of_ofByte? {row : Row} {flags : RowFlags}
    (found : RowFlags.ofByte? row.dataFlags = some flags) : flags.Reads row := by
  unfold RowFlags.ofByte? at found
  split at found
  · cases found
    constructor <;> simp [Has]
  · cases found

theorem isOk_nonzero (what : String) (n : UInt32) : (nonzero what n).isOk = true ↔ n ≠ 0 := by
  rw [nonzero, isOk_refuse]
  simp

theorem isOk_nonzero_bind (what : String) (n : UInt32) (next : UInt32 → Except ValueFault α) :
    (nonzero what n >>= next).isOk = true ↔ n ≠ 0 ∧ (next n).isOk = true := by
  by_cases zero : n = 0
  · rw [nonzero, if_pos zero, error_bind]
    simp [zero]
  · rw [nonzero, if_neg zero, ok_bind]
    simp [zero]

theorem isOk_point_bind (next : Unit → Except ValueFault α) :
    (row.requirePoint >>= next).isOk = true ↔ row.position.OnMap ∧ (next ()).isOk = true := by
  rw [← Position.onMap_iff, requirePoint]
  cases row.position.onMap with
  | true => simp [ok_bind]
  | false => simp [error_bind]

theorem isSome_chatType (n : UInt32) : (ChatType.ofNumber? n).isSome = true ↔ n.toNat < 8 := by
  unfold ChatType.ofNumber?
  split <;> simp_all
  omega

theorem find?_outside_eq_none (ids : List Int32) :
    (ids.find? fun id => id != 0 && (TextRange.ofId? id).isNone) = none ↔
      ∀ id ∈ ids, id ≠ 0 → IsTextId id := by
  simp [List.find?_eq_none, ofId?_eq_none]

theorem isOk_decodeTalk : row.decodeTalk.isOk = true ↔ row.InDomain .talk := by
  have texts : row.texts.toList = [row.dataint, row.dataint2, row.dataint3, row.dataint4] := rfl
  rw [decodeTalk, InDomain, ← isSome_chatType, ← texts, ← find?_outside_eq_none]
  cases ChatType.ofNumber? row.datalong with
  | none => simp
  | some chat =>
      dsimp only
      rw [isOk_refuse]
      cases row.texts.toList.find? fun id => id != 0 && (TextRange.ofId? id).isNone with
      | none => simp
      | some id => simp

theorem isOk_decodeCast : row.decodeCast.isOk = true ↔ row.InDomain .castSpell := by
  rw [decodeCast, isOk_nonzero_bind, isOk_refuse, InDomain, UInt32.lt_iff_toNat_lt]
  simp

theorem isOk_decodeSound : row.decodeSound.isOk = true ↔ row.InDomain .playSound := by
  rw [decodeSound, isOk_refuse, isOk_nonzero_bind, InDomain, UInt32.lt_iff_toNat_lt]
  simp [and_comm]

theorem isOk_decodeMovement : row.decodeMovement.isOk = true ↔ row.InDomain .movement := by
  rw [decodeMovement, InDomain]
  split <;> simp_all
  omega

theorem any_lockState : ∀ number : Fin 16,
    (LockState.ofNumber? (.ofNat number)).any LockState.isSound = true ↔
      UInt32.ofNat number ≠ 0 ∧ UInt32.ofNat number &&& 3 ≠ 3 ∧
        UInt32.ofNat number &&& 12 ≠ 12 := by
  decide

theorem isOk_decodeLock : row.decodeLock.isOk = true ↔ row.InDomain .goLockState := by
  have sound : row.decodeLock.isOk = (LockState.ofNumber? row.datalong).any LockState.isSound := by
    rw [decodeLock]
    cases LockState.ofNumber? row.datalong with
    | none => rfl
    | some state =>
        rw [Bool.eq_iff_iff, isOk_refuse, isOk_refuse]
        simp [LockState.isSound]
  rw [sound, InDomain]
  by_cases small : row.datalong.toNat < 16
  · have number : UInt32.ofNat row.datalong.toNat = row.datalong := UInt32.ofNat_toNat
    have few := any_lockState ⟨row.datalong.toNat, small⟩
    simp only [number] at few
    rw [few]
    simp [small]
  · have none : LockState.ofNumber? row.datalong = none := by
      rw [LockState.ofNumber?, if_neg]
      rw [UInt32.lt_iff_toNat_lt]
      exact small
    simp [none, small]

theorem isOk_decodeNpcFlags : row.decodeNpcFlags.isOk = true ↔ row.InDomain .modifyNpcFlags := by
  rw [decodeNpcFlags, InDomain]
  split <;> simp_all
  omega

theorem isOk_decodeTemplate : row.decodeTemplate.isOk = true ↔ row.InDomain .updateTemplate := by
  rw [decodeTemplate, InDomain, and_comm]
  split
  · rw [ok_bind, isOk_nonzero_bind]
    simp [*]
  · rw [ok_bind, isOk_nonzero_bind]
    simp [*]
  · rename_i _ alliance horde
    have large : ¬ row.datalong2.toNat ≤ 1 := by
      intro small
      rcases Nat.le_one_iff_eq_zero_or_eq_one.mp small with zero | one
      · exact alliance zero
      · exact horde one
    rw [error_bind]
    simp [large]

theorem isOk_decodeValues? {flags : RowFlags} (reads : flags.Reads row) {tag : Tag}
    (loadable : tag ≠ .reserved) :
    ∃ values, row.decodeValues? flags tag = some values ∧
      (values.isOk = true ↔ row.InDomain tag) := by
  -- A case for every command. Those that are read in a function of their own come first.
  cases tag with
  | reserved => exact absurd rfl loadable
  | talk => exact ⟨_, rfl, row.isOk_decodeTalk⟩
  | castSpell => exact ⟨_, rfl, row.isOk_decodeCast⟩
  | playSound => exact ⟨_, rfl, row.isOk_decodeSound⟩
  | movement => exact ⟨_, rfl, row.isOk_decodeMovement⟩
  | goLockState => exact ⟨_, rfl, row.isOk_decodeLock⟩
  | modifyNpcFlags => exact ⟨_, rfl, row.isOk_decodeNpcFlags⟩
  | updateTemplate => exact ⟨_, rfl, row.isOk_decodeTemplate⟩
  | moveTo =>
      refine ⟨_, rfl, ?_⟩
      rw [InDomain, ← reads.additional]
      cases flags.additional with
      | true => simp
      | false =>
          simp only [Bool.not_false, ↓reduceIte, isOk_point_bind]
          simp
  | teleportTo =>
      refine ⟨_, rfl, ?_⟩
      rw [isOk_point_bind, InDomain]
      simp
  | tempSummonCreature =>
      refine ⟨_, rfl, ?_⟩
      rw [isOk_point_bind, isOk_nonzero_bind, InDomain]
      simp
  | questExplored =>
      refine ⟨_, rfl, ?_⟩
      rw [isOk_nonzero_bind, isOk_refuse, Binary32.visibleRange_lt_toFloat32, InDomain]
      simp
  | createItem =>
      refine ⟨_, rfl, ?_⟩
      rw [isOk_nonzero_bind, isOk_nonzero_bind, InDomain]
      simp
  | standState =>
      refine ⟨_, rfl, ?_⟩
      rw [isOk_accept, InDomain]
      exact UInt32.lt_iff_toNat_lt
  | terminateScript =>
      refine ⟨_, rfl, ?_⟩
      have zero : row.datalong2 = 0 ↔ row.datalong2.toNat = 0 := UInt32.toNat_inj.symm
      rw [isOk_refuse, Binary32.visibleRange_lt_toFloat32, InDomain, zero]
      by_cases anyone : row.datalong = 0
      · simp [anyone]
      · simp [anyone]
        omega
  | sendAiEvent =>
      refine ⟨_, rfl, ?_⟩
      rw [isOk_accept, InDomain]
      simp [isAiEvent, UInt32.lt_iff_toNat_lt, UInt32.le_iff_toNat_le]
  | moveDynamic =>
      refine ⟨_, rfl, ?_⟩
      rw [isOk_refuse, InDomain, UInt32.lt_iff_toNat_lt]
      simp
  | sendMail =>
      refine ⟨_, rfl, ?_⟩
      rw [isOk_refuse, isOk_nonzero_bind, InDomain, Int32.lt_iff_toInt_lt]
      simp [and_comm]
  | emote | sendTaxiPath =>
      refine ⟨_, rfl, ?_⟩
      rw [isOk_map, isOk_nonzero, InDomain]
  | killCredit | respawnGameObject | openDoor | closeDoor | removeAura | terminateCond =>
      refine ⟨_, rfl, ?_⟩
      rw [isOk_nonzero_bind, InDomain]
      simp
  | fieldSet | flagSet | flagRemove | activateObject | despawnSelf | playMovie | setActiveObject
  | setFaction | morph | mount | setRun | attackStart | pauseWaypoints | setFacing | setFly
  | despawnGameObject | respawn | setEquipment | resetGameObject =>
      exact ⟨_, rfl, by simp [InDomain]⟩

end Row

end WorldScripts
