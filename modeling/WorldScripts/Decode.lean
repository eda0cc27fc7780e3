import WorldScripts.Decode.Buddy
import WorldScripts.Text.Range

/-!
Decoding rows into instructions. A row is checked in a fixed order, tag, flags, buddy and values,
and the first fault found is the one reported.
-/

namespace WorldScripts

def standStates : UInt32 := 10

/-- Events below eight are those of scripted AIs, and six more are set aside for native ones. -/
def isAiEvent (event : UInt32) : Bool :=
  event < 8 || (100 ≤ event && event ≤ 105)

namespace Row

def position (row : Row) : Position :=
  ⟨row.x, row.y, row.z, row.o⟩

def nonzero (what : String) (n : UInt32) : Except ValueFault UInt32 :=
  if n = 0 then .error (.zero what) else .ok n

def requirePoint (row : Row) : Except ValueFault Unit :=
  if row.position.onMap then .ok () else .error (.coordinates row.x row.y row.z)

def texts (row : Row) : Vector Int32 4 :=
  #v[row.dataint, row.dataint2, row.dataint3, row.dataint4]

def decodeTalk (row : Row) : Except ValueFault Command :=
  match ChatType.ofNumber? row.datalong with
  | none => .error (.chatType row.datalong)
  | some chat =>
      if row.dataint = 0 then .error .noFirstText
      else
        match row.texts.toList.find? fun id => id != 0 && (TextRange.ofId? id).isNone with
        | some id => .error (.textRange id)
        | none => .ok (.talk chat row.datalong4 row.texts)

/-- The two low bits give the direction, the third one casts without cost. -/
def decodeCast (row : Row) : Except ValueFault Command := do
  let spell ← nonzero "spell id" row.datalong
  if 0x07 < row.datalong2 then .error (.castFlags row.datalong2)
  else
    let direction : CastDirection :=
      match (row.datalong2 &&& 0x03).toNat with
      | 0 => .sourceToTarget
      | 1 => .sourceToSource
      | 2 => .targetToTarget
      | _ => .targetToSource
    .ok (.castSpell spell direction (row.datalong2 &&& 0x04 != 0))

def decodeSound (row : Row) : Except ValueFault Command := do
  if 0x03 < row.datalong2 then .error (.soundFlags row.datalong2)
  else
    let sound ← nonzero "sound id" row.datalong
    .ok (.playSound sound (row.datalong2 &&& 0x01 != 0) (row.datalong2 &&& 0x02 != 0))

def decodeMovement (row : Row) : Except ValueFault Command :=
  match row.datalong.toNat with
  | 0 => .ok (.movement .idle)
  | 1 => .ok (.movement .random)
  | 2 => .ok (.movement .waypoint)
  | _ => .error (.movementType row.datalong)

def decodeLock (row : Row) : Except ValueFault Command :=
  match LockState.ofNumber? row.datalong with
  | none => .error (.lockState row.datalong)
  | some state =>
      if state.isEmpty then .error (.lockState row.datalong)
      else if state.contradicts then .error (.contradictingLock row.datalong)
      else .ok (.lockGameObject state)

def decodeNpcFlags (row : Row) : Except ValueFault Command :=
  match row.datalong2.toNat with
  | 0 => .ok (.modifyNpcFlags row.datalong .toggle)
  | 1 => .ok (.modifyNpcFlags row.datalong .add)
  | 2 => .ok (.modifyNpcFlags row.datalong .remove)
  | _ => .error (.npcFlagOperation row.datalong2)

def decodeTemplate (row : Row) : Except ValueFault Command := do
  let team ← match row.datalong2.toNat with
    | 0 => .ok Team.alliance
    | 1 => .ok Team.horde
    | _ => .error (.team row.datalong2)
  let entry ← nonzero "creature entry" row.datalong
  .ok (.updateTemplate entry team)

/-- The values of a row whose tag and flags have been checked, or nothing for the reserved tag, which
no command has. -/
def decodeValues? (row : Row) (flags : RowFlags) : Tag → Option (Except ValueFault Command)
  | .reserved => none
  | .talk => some row.decodeTalk
  | .emote => some (.emote <$> nonzero "emote id" row.datalong)
  | .fieldSet => some (.ok (.setField row.datalong row.datalong2))
  | .moveTo => some do
      if !flags.additional then row.requirePoint
      .ok (.moveTo row.datalong2)
  | .flagSet => some (.ok (.changeFlag true row.datalong row.datalong2))
  | .flagRemove => some (.ok (.changeFlag false row.datalong row.datalong2))
  | .teleportTo => some do
      row.requirePoint
      .ok (.teleport row.datalong)
  | .questExplored => some do
      let quest ← nonzero "quest id" row.datalong
      if visibleRange < row.datalong2.toFloat32 then .error (.questDistance row.datalong2)
      else .ok (.exploreQuest quest row.datalong2)
  | .killCredit => some do
      let creature ← nonzero "creature entry" row.datalong
      .ok (.killCredit creature (row.datalong2 != 0))
  | .respawnGameObject => some do
      let dbGuid ← nonzero "gameobject guid" row.datalong
      .ok (.respawnGameObject dbGuid row.datalong2.toInt32)
  | .tempSummonCreature => some do
      row.requirePoint
      let creature ← nonzero "creature entry" row.datalong
      .ok (.summon creature row.datalong2 row.datalong3 row.datalong4)
  | .openDoor => some do
      let dbGuid ← nonzero "door guid" row.datalong
      .ok (.useDoor true dbGuid row.datalong2.toInt32)
  | .closeDoor => some do
      let dbGuid ← nonzero "door guid" row.datalong
      .ok (.useDoor false dbGuid row.datalong2.toInt32)
  | .activateObject => some (.ok .activateObject)
  | .removeAura => some do
      let spell ← nonzero "spell id" row.datalong
      .ok (.removeAura spell (row.datalong2 != 0))
  | .castSpell => some row.decodeCast
  | .playSound => some row.decodeSound
  | .createItem => some do
      let item ← nonzero "item entry" row.datalong
      let amount ← nonzero "item amount" row.datalong2
      .ok (.createItem item amount)
  | .despawnSelf => some (.ok (.despawnSelf row.datalong))
  | .playMovie => some (.ok (.playMovie row.datalong))
  | .movement => some row.decodeMovement
  | .setActiveObject => some (.ok (.setActive (row.datalong != 0)))
  | .setFaction => some (.ok (.setFaction row.datalong))
  | .morph => some (.ok (.changeDisplay false row.datalong))
  | .mount => some (.ok (.changeDisplay true row.datalong))
  | .setRun => some (.ok (.setRun (row.datalong != 0)))
  | .attackStart => some (.ok .attackStart)
  | .goLockState => some row.decodeLock
  | .standState => some <|
      if row.datalong < standStates then .ok (.standState row.datalong)
      else .error (.standState row.datalong)
  | .modifyNpcFlags => some row.decodeNpcFlags
  | .sendTaxiPath => some (.sendTaxiPath <$> nonzero "taxi path id" row.datalong)
  | .terminateScript => some <|
      if row.datalong ≠ 0 ∧ (row.datalong2 = 0 ∨ visibleRange < row.datalong2.toFloat32) then
        .error (.searchDistance row.datalong2)
      else .ok (.terminateScript row.datalong row.datalong2 row.dataint)
  | .pauseWaypoints => some (.ok (.pauseWaypoints (row.datalong != 0)))
  | .terminateCond => some do
      let condition ← nonzero "condition id" row.datalong
      .ok (.terminateOnCondition condition row.datalong2)
  | .sendAiEvent => some <|
      if isAiEvent row.datalong then .ok (.sendAiEvent row.datalong row.datalong2)
      else .error (.aiEvent row.datalong)
  | .setFacing => some (.ok (.setFacing (row.datalong != 0)))
  | .moveDynamic => some <|
      if row.datalong ≠ 0 ∧ row.datalong < row.datalong2 then
        .error (.distances row.datalong2 row.datalong)
      else .ok (.moveDynamic row.datalong row.datalong2)
  | .sendMail => some <|
      if row.dataint < 0 then .error (.mailDelay row.dataint)
      else do
        let template ← nonzero "mail template id" row.datalong
        .ok (.sendMail template row.datalong2 row.dataint)
  | .setFly => some (.ok (.setFly (row.datalong != 0)))
  | .despawnGameObject => some (.ok .despawnGameObject)
  | .respawn => some (.ok .respawn)
  | .setEquipment => some <|
      .ok (.setEquipment (row.datalong != 0) #v[row.dataint, row.dataint2, row.dataint3])
  | .resetGameObject => some (.ok .resetGameObject)
  | .updateTemplate => some row.decodeTemplate

def decodeCommand (row : Row) (flags : RowFlags) (tag : Tag) : Except DecodeError Command :=
  match row.decodeValues? flags tag with
  | none => .error (.reservedCommand row.id tag)
  | some values => values.mapError (.invalidValue row.id tag)

def decodeHead (row : Row) : Except DecodeError (Tag × RowFlags) :=
  match Tag.ofNumber? row.command with
  | none => .error (.unknownCommand row.id row.command)
  | some tag =>
      if !tag.traits.loadable then .error (.reservedCommand row.id tag)
      else
        match RowFlags.ofByte? row.dataFlags with
        | none => .error (.undefinedFlags row.id tag row.dataFlags)
        | some flags =>
            if flags.additional && !tag.traits.additional then
              .error (.additionalUnsupported row.id tag)
            else .ok (tag, flags)

def decode (row : Row) (options : DecodeOptions) : Except DecodeError Instruction := do
  let (tag, flags) ← row.decodeHead
  let buddy ← (row.buddy options tag.traits flags).mapError (.malformedBuddy row.id tag)
  let command ← row.decodeCommand flags tag
  .ok {
    key := row.id
    delay := row.delay
    command := command
    position := row.position
    buddy := buddy
    flags := flags }

end Row

def validateRows (rows : List Row) (options : DecodeOptions) : List DecodeError :=
  rows.filterMap fun row =>
    match row.decode options with
    | .ok _ => none
    | .error fault => some fault

end WorldScripts
