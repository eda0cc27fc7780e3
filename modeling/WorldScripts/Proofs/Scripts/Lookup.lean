import WorldScripts.Store

/-!
What a table holds under a key: the rows of that key that can be decoded, in the order of the rows.
-/

namespace WorldScripts

theorem Row.key_of_decode {row : Row} {options : DecodeOptions} {instruction : Instruction}
    (read : row.decode options = .ok instruction) : instruction.key = row.id := by
  unfold decode at read
  simp only [bind, Except.bind] at read
  split at read
  · cases read
  · split at read
    · cases read
    · split at read
      · cases read
      · cases read
        rfl

namespace Scripts

def decodeUnder (rows : List Row) (options : DecodeOptions) (key : UInt32) : List Instruction :=
  (rows.filter (·.id = key)).filterMap fun row => (row.decode options).toOption

theorem filter_decodeRows (rows : List Row) (options : DecodeOptions) (key : UInt32) :
    (decodeRows rows options).filter (·.key = key) = decodeUnder rows options key := by
  rw [decodeRows, decodeUnder]
  induction rows with
  | nil => rfl
  | cons row rest ih =>
      cases read : row.decode options with
      | error error =>
          have left : (row.decode options).toOption = none := by rw [read]; rfl
          by_cases under : row.id = key <;> simp [left, under, ih]
      | ok instruction =>
          have same := Row.key_of_decode read
          have kept : (row.decode options).toOption = some instruction := by rw [read]; rfl
          by_cases under : row.id = key <;> simp [kept, under, same, ih]

theorem lookup_ofRows (rows : List Row) (table : ScriptTable) (options : DecodeOptions)
    (key : UInt32) : (ofRows rows table options).value.1.lookup key = decodeUnder rows options key := by
  show ((OrderedMap.group Instruction.key (decodeRows rows options)).find? key).getD [] = _
  rw [OrderedMap.getD_find?_group, filter_decodeRows]

end Scripts

end WorldScripts
