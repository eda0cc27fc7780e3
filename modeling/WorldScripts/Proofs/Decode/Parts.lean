import WorldScripts.Proofs.Decode.Provenance

/-!
The parts of an instruction. Each of them is read from the row by itself, the later ones with regard to
the tag and the flags, and an instruction is read just when all of its parts are. So rows that agree in
what a part is read from agree in that part.
-/

namespace WorldScripts

/-- Where the parts of an instruction come from. -/
structure Instruction.PartsOf (instruction : Instruction) (row : Row) (options : DecodeOptions) :
    Prop where
  tag : Tag.ofNumber? row.command = some instruction.tag
  loadable : instruction.tag.traits.loadable = true
  flags : RowFlags.ofByte? row.dataFlags = some instruction.flags
  additional : instruction.flags.additional = true → instruction.tag.traits.additional = true
  buddy : row.buddy options instruction.tag.traits instruction.flags = .ok instruction.buddy
  values : row.decodeValues? instruction.flags instruction.tag = some (.ok instruction.command)
  key : instruction.key = row.id
  delay : instruction.delay = row.delay
  position : instruction.position = row.position

namespace Row

variable {row : Row} {options : DecodeOptions} {instruction : Instruction}

theorem decodeHead_parts : Yields row.decodeHead fun head =>
    Tag.ofNumber? row.command = some head.1 ∧ head.1.traits.loadable = true ∧
      RowFlags.ofByte? row.dataFlags = some head.2 ∧
      (head.2.additional = true → head.1.traits.additional = true) := by
  unfold decodeHead
  split
  · exact yields_error _
  · rename_i tag named
    rw [yields_ite]
    refine ⟨fun _ => yields_error _, fun loadable => ?_⟩
    split
    · exact yields_error _
    · rename_i flags valid
      rw [yields_ite]
      refine ⟨fun _ => yields_error _, fun supported => (yields_ok _).mpr ?_⟩
      exact ⟨named, by simpa using loadable, valid, by simpa using supported⟩

theorem parts_of_decode (row : Row) (options : DecodeOptions) :
    Yields (row.decode options) fun instruction => instruction.PartsOf row options := by
  unfold decode
  rw [yields_bind]
  rintro ⟨tag, flags⟩ head
  obtain ⟨named, loadable, valid, additional⟩ := decodeHead_parts _ head
  simp only [yields_bind, yields_mapError]
  intro buddy found
  unfold decodeCommand
  cases values : row.decodeValues? flags tag with
  | none => exact yields_error _
  | some read =>
      rw [yields_mapError]
      intro command decoded
      obtain ⟨rfl, _⟩ := decodeValues?_yields values _ decoded
      rw [decoded] at values
      exact (yields_ok _).mpr ⟨named, loadable, valid, additional, found, values, rfl, rfl, rfl⟩

theorem decode_of_parts (parts : instruction.PartsOf row options) :
    row.decode options = .ok instruction := by
  have head : row.decodeHead = .ok (instruction.tag, instruction.flags) := by
    unfold decodeHead
    rw [parts.tag]
    simp only [parts.flags]
    rw [if_neg (by simpa using parts.loadable), if_neg (by simpa using parts.additional)]
  unfold decode decodeCommand
  rw [head, ok_bind]
  dsimp only
  rw [parts.buddy, parts.values, ← parts.key, ← parts.delay, ← parts.position]
  rfl

theorem decode_eq_ok : row.decode options = .ok instruction ↔ instruction.PartsOf row options :=
  ⟨row.parts_of_decode options instruction, decode_of_parts⟩

end Row

end WorldScripts
