import WorldScripts.Proofs.Decode.Acceptance

/-!
The columns that a command reads. The table lists them, and the decoder is written apart from it. What
the table lists for a command is just what makes a difference: a column that is not listed may hold
anything, and for one that is listed there are two rows that differ in it alone and come out different.
-/

namespace WorldScripts

namespace Row

def clear (row : Row) : Column → Row
  | .datalong => { row with datalong := 0 }
  | .datalong2 => { row with datalong2 := 0 }
  | .datalong3 => { row with datalong3 := 0 }
  | .datalong4 => { row with datalong4 := 0 }
  | .dataint => { row with dataint := 0 }
  | .dataint2 => { row with dataint2 := 0 }
  | .dataint3 => { row with dataint3 := 0 }
  | .dataint4 => { row with dataint4 := 0 }

/-- The rows differ in the column at most. -/
def AgreeBut (column : Column) (row other : Row) : Prop :=
  row.clear column = other.clear column

/-- What comes of a row: an instruction, or an error that is known by its kind and its text. -/
def verdict (row : Row) (options : DecodeOptions) : Except (Check × String) Instruction :=
  (row.decode options).mapError fun error => (error.check, error.message)

end Row

theorem Row.toOption_verdict (row : Row) (options : DecodeOptions) :
    (row.verdict options).toOption = (row.decode options).toOption := by
  unfold Row.verdict
  cases row.decode options <;> rfl

/-- What comes of a row with the tag never depends on the column. -/
def Tag.Ignores (tag : Tag) (column : Column) : Prop :=
  ∀ (options : DecodeOptions) (row other : Row), row.command.toNat = tag.number →
    row.AgreeBut column other → row.verdict options = other.verdict options

theorem Tag.columns_of_legacyBuddy (tag : Tag) (legacy : tag.traits.legacyBuddy = true) :
    Column.datalong2 ∈ tag.traits.columns ∧ Column.datalong3 ∈ tag.traits.columns := by
  revert legacy
  cases tag <;> decide

namespace Row

variable {row : Row} {tag : Tag} {column : Column}

theorem decodeHead_clear (row : Row) (column : Column) :
    (row.clear column).decodeHead = row.decodeHead := by
  cases column <;> rfl

theorem buddy_clear (absent : column ∉ tag.traits.columns) (options : DecodeOptions)
    (flags : RowFlags) :
    (row.clear column).buddy options tag.traits flags = row.buddy options tag.traits flags := by
  have spelling : (row.clear column).effectiveBuddy tag.traits = row.effectiveBuddy tag.traits := by
    cases column with
    | datalong | datalong4 | dataint | dataint2 | dataint3 | dataint4 => rfl
    | datalong2 | datalong3 =>
        -- Where the older spelling is known, both of its columns are listed.
        cases legacy : tag.traits.legacyBuddy with
        | true => simp [tag.columns_of_legacyBuddy legacy] at absent
        | false => simp [effectiveBuddy, legacy, rowBuddy, clear]
  unfold buddy
  rw [spelling]

theorem decodeCommand_clear (absent : column ∉ tag.traits.columns) (flags : RowFlags) :
    (row.clear column).decodeCommand flags tag = row.decodeCommand flags tag := by
  -- The column is listed for the command, or it does not occur in what is read for it.
  cases tag <;> cases column <;> first | rfl | exact absurd (by decide) absent

theorem decode_clear (number : tag.number = row.command.toNat) (absent : column ∉ tag.traits.columns)
    (options : DecodeOptions) : (row.clear column).decode options = row.decode options := by
  unfold decode
  rw [decodeHead_clear]
  rcases row.decodeHead_cases options with ⟨named, flags, head, same, _⟩ | ⟨error, head, _⟩
  · obtain rfl : named = tag := Tag.number_inj (same.trans number.symm)
    rw [head, ok_bind, ok_bind]
    dsimp only
    rw [buddy_clear absent, decodeCommand_clear absent]
    cases column <;> rfl
  · rw [head]
    rfl

theorem clear_command (row : Row) (column : Column) : (row.clear column).command = row.command := by
  cases column <;> rfl

theorem AgreeBut.command {other : Row} (agree : row.AgreeBut column other) :
    row.command = other.command := by
  rw [← clear_command row column, ← clear_command other column, agree]

theorem decode_clearAll (number : tag.number = row.command.toNat) (columns : List Column)
    (absent : ∀ column ∈ columns, column ∉ tag.traits.columns) (options : DecodeOptions) :
    (columns.foldl clear row).decode options = row.decode options := by
  induction columns generalizing row with
  | nil => rfl
  | cons column rest ih =>
      rw [List.foldl_cons, ih]
      · exact decode_clear number (absent column List.mem_cons_self) options
      · rwa [clear_command]
      · intro other member
        exact absent other (List.mem_cons_of_mem column member)

end Row

namespace Tag

theorem ignores_of_absent {tag : Tag} {column : Column} (absent : column ∉ tag.traits.columns) :
    tag.Ignores column := by
  intro options row other number agree
  have number' : tag.number = other.command.toNat := by rw [← number, agree.command]
  rw [Row.verdict, Row.verdict, ← Row.decode_clear number.symm absent,
    ← Row.decode_clear number' absent, agree]

/-- A row that every command can be read from, with something in every column. -/
def specimen (tag : Tag) : Row where
  command := .ofNat tag.number
  datalong := 1
  datalong2 := 1
  datalong3 := 1
  datalong4 := 1
  dataint := 2000000000
  dataint2 := 2000000000
  dataint3 := 2000000000
  dataint4 := 2000000000

theorem specimen_clear {tag : Tag} (loadable : tag.traits.loadable = true) :
    ∀ column ∈ tag.traits.columns,
      (tag.specimen.decode {}).toOption ≠ ((tag.specimen.clear column).decode {}).toOption := by
  revert loadable
  cases tag <;> decide +kernel

theorem absent_of_ignores {tag : Tag} (loadable : tag.traits.loadable = true) {column : Column}
    (ignored : tag.Ignores column) : column ∉ tag.traits.columns := by
  intro listed
  have agree : tag.specimen.AgreeBut column (tag.specimen.clear column) := by
    cases column <;> rfl
  have number : tag.specimen.command.toNat = tag.number := by
    cases tag <;> rfl
  have same := congrArg Except.toOption (ignored {} _ _ number agree)
  rw [Row.toOption_verdict, Row.toOption_verdict] at same
  exact specimen_clear loadable column listed same

/-- What the table lists for a command is what its rows are read from, no less and no more. Hence a row
comes out the same when all columns that it uses without need are cleared. -/
theorem columns_exact :
    (∀ tag : Tag, tag.traits.loadable = true → ∀ column,
      column ∉ tag.traits.columns ↔ tag.Ignores column) ∧
    ∀ (tag : Tag) (row : Row) (options : DecodeOptions), tag.number = row.command.toNat →
      ((row.unusedColumns tag.traits.columns).foldl Row.clear row).decode options =
        row.decode options := by
  constructor
  · intro tag loadable column
    exact ⟨ignores_of_absent, absent_of_ignores loadable⟩
  · intro tag row options number
    refine Row.decode_clearAll number _ ?_ options
    intro column unused
    have outside := (List.mem_filter.mp unused).2
    simp at outside
    exact outside.1

end Tag

end WorldScripts
