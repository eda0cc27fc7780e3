import Mathlib.Data.Finset.Card
import WorldScripts.Proofs.Scripts.Grouping
import WorldScripts.Proofs.Scripts.Lookup

/-!
How a table comes out of its rows. The rows are read in one pass, in which each of them is refused or put
behind the others of its key. Nothing is lost on the way, nothing comes up twice, and what is said about
the rows adds up.
-/

namespace WorldScripts

namespace Row

/-- The row is in use, but has a value in a column that its command never reads. -/
def FillsUnread (row : Row) (options : DecodeOptions) : Prop :=
  ∃ instruction, row.decode options = .ok instruction ∧
    ∃ column, column ∉ instruction.traits.columns ∧ row.uses column = true

theorem hasUnreadColumn_iff (row : Row) (options : DecodeOptions) :
    row.hasUnreadColumn options = true ↔ row.FillsUnread options := by
  unfold hasUnreadColumn FillsUnread unreadColumns unusedColumns
  cases row.decode options with
  | error error => simp
  | ok instruction =>
      simp [Column.mem_all]

instance (row : Row) (options : DecodeOptions) : Decidable (row.FillsUnread options) :=
  decidable_of_iff _ (row.hasUnreadColumn_iff options)

end Row

structure Draft where
  byKey : OrderedMap UInt32 (List Instruction) := .empty
  skipped : List DecodeError := []
  warnings : Nat := 0

namespace Draft

variable (table : ScriptTable) (options : DecodeOptions)

def keep (draft : Draft) (instruction : Instruction) : Draft :=
  { draft with
    byKey := draft.byKey.insert instruction.key
      ((draft.byKey.find? instruction.key).getD [] ++ [instruction]) }

def add (draft : Draft) (row : Row) : Logged Draft :=
  let lines := row.loadLines table options
  match row.decode options with
  | .error error => ⟨{ draft with skipped := draft.skipped ++ [error] }, lines⟩
  | .ok instruction =>
      let warnings :=
        if (row.unreadColumns instruction).isEmpty then draft.warnings else draft.warnings + 1
      ⟨{ draft.keep instruction with warnings }, lines⟩

def addAll (draft : Draft) : List Row → Logged Draft
  | [] => pure draft
  | row :: rest => do addAll (← draft.add table options row) rest

def finish (draft : Draft) (rows : Nat) : Logged (Scripts × LoadReport) :=
  let report : LoadReport :=
    { table, rows, keys := draft.byKey.size, skipped := draft.skipped, warnings := draft.warnings }
  ⟨(⟨draft.byKey⟩, report),
    [.info (s!"{table}: {report.loaded} commands for {report.keys} keys loaded " ++
      s!"({report.skipped.length} rows skipped)")]⟩

def of (read : List Row) : Draft where
  byKey := (Scripts.ofInstructions (decodeRows read options)).byKey
  skipped := validateRows read options
  warnings := read.countP (·.hasUnreadColumn options)

theorem add_of (read : List Row) (row : Row) :
    (of options read).add table options row =
      ⟨of options (read ++ [row]), row.loadLines table options⟩ := by
  unfold add
  cases decoded : row.decode options with
  | error error => simp [of, decodeRows, validateRows, Row.hasUnreadColumn, decoded, Except.toOption]
  | ok instruction =>
      have last : decodeRows (read ++ [row]) options = decodeRows read options ++ [instruction] := by
        simp [decodeRows, decoded, Except.toOption]
      by_cases clean : row.unreadColumns instruction = [] <;>
        simp [of, keep, last, validateRows, Row.hasUnreadColumn, decoded, clean, Scripts.ofInstructions,
          OrderedMap.group_concat]

theorem addAll_of (read rows : List Row) :
    (of options read).addAll table options rows =
      ⟨of options (read ++ rows), rows.flatMap (·.loadLines table options)⟩ := by
  induction rows generalizing read with
  | nil =>
      rw [List.append_nil]
      rfl
  | cons row rest ih =>
      simp only [addAll, add_of, bind, ih, List.append_assoc, List.singleton_append,
        List.flatMap_cons]

end Draft

namespace Scripts

/-- Builds a table in one pass. -/
def readOff (rows : List Row) (table : ScriptTable) (options : DecodeOptions) :
    Logged (Scripts × LoadReport) := do
  let draft ← ({} : Draft).addAll table options rows
  draft.finish table rows.length

theorem readOff_eq (rows : List Row) (table : ScriptTable) (options : DecodeOptions) :
    readOff rows table options = ofRows rows table options := by
  rw [readOff, show ({} : Draft) = Draft.of options [] from rfl, Draft.addAll_of]
  rfl

variable (rows : List Row) (options : DecodeOptions)

theorem keys_decodeRows : (decodeRows rows options).map Instruction.key =
    (rows.filter fun row => (row.decode options).isOk).map (·.id) := by
  induction rows with
  | nil => rfl
  | cons row rest ih =>
      rw [decodeRows] at ih ⊢
      cases decoded : row.decode options with
      | error error => simpa [decoded, Except.toOption, Except.isOk, Except.toBool] using ih
      | ok instruction =>
          simpa [decoded, Except.toOption, Except.isOk, Except.toBool, Row.key_of_decode decoded] using ih

theorem length_rows :
    rows.length = (validateRows rows options).length + (decodeRows rows options).length := by
  induction rows with
  | nil => rfl
  | cons row rest ih =>
      rw [decodeRows, validateRows] at ih ⊢
      cases decoded : row.decode options <;> simp [decoded, Except.toOption, ih] <;> omega

theorem faults_in_order :
    List.Forall₂ (fun row fault => row.decode options = .error fault)
      (rows.filter fun row => !(row.decode options).isOk) (validateRows rows options) := by
  induction rows with
  | nil => exact .nil
  | cons row rest ih =>
      rw [validateRows] at ih ⊢
      cases decoded : row.decode options with
      | error fault => simpa [decoded, Except.isOk, Except.toBool] using ih
      | ok instruction => simpa [decoded, Except.isOk, Except.toBool] using ih

/-- What a table holds of its rows, and what is reported of them. -/
structure Accounts (rows : List Row) (table : ScriptTable) (options : DecodeOptions)
    (scripts : Scripts) (report : LoadReport) : Prop where
  contains : ∀ key, scripts.contains key = true ↔
    ∃ row ∈ rows, row.id = key ∧ (row.decode options).isOk = true
  sequence : ∀ key commands, scripts.byKey.find? key = some commands ↔
    commands ≠ [] ∧ commands = decodeUnder rows options key
  own : ∀ key commands, scripts.byKey.find? key = some commands →
    ∀ instruction ∈ commands, instruction.key = key
  /-- All keys together hold what could be decoded, each command as often as there are rows of it. -/
  commands : scripts.commands.Perm (decodeRows rows options)
  skipped : List.Forall₂ (fun row fault => row.decode options = .error fault)
    (rows.filter fun row => !(row.decode options).isOk) report.skipped
  validated : report.skipped = validateRows rows options
  read : report.rows = rows.length
  sum : report.rows = report.skipped.length + scripts.commandCount
  loaded : report.skipped.length ≤ report.rows ∧ report.loaded = scripts.commandCount
  counts : ∀ store : Store,
    (store.replace table scripts).value.counts table = (report.keys, report.loaded)
  keys : report.keys =
    ((rows.filter fun row => (row.decode options).isOk).map (·.id)).toFinset.card
  warnings : report.warnings = rows.countP fun row => row.FillsUnread options

theorem ofRows_accounts (table : ScriptTable) :
    let built := (ofRows rows table options).value
    Accounts rows table options built.1 built.2 := by
  intro built
  have commands : built.1.commands.Perm (decodeRows rows options) :=
    OrderedMap.flatten_group Instruction.key (decodeRows rows options)
  have sum : built.2.rows = built.2.skipped.length + built.1.commandCount := by
    rw [commandCount, commands.length_eq]
    exact length_rows rows options
  have loaded : built.2.loaded = built.1.commandCount := by
    rw [LoadReport.loaded, sum, Nat.add_sub_cancel_left]
  have sequence : ∀ key found, built.1.byKey.find? key = some found ↔
      found ≠ [] ∧ found = decodeUnder rows options key := by
    intro key found
    rw [← filter_decodeRows]
    exact OrderedMap.find?_group Instruction.key (decodeRows rows options) key found
  constructor
  · intro key
    have named : built.1.contains key = true ↔
        key ∈ (decodeRows rows options).map Instruction.key := by
      rw [List.mem_map]
      exact OrderedMap.contains_group Instruction.key (decodeRows rows options) key
    rw [named, keys_decodeRows, List.mem_map]
    constructor
    · rintro ⟨row, member, rfl⟩
      obtain ⟨inside, read⟩ := List.mem_filter.mp member
      exact ⟨row, inside, rfl, read⟩
    · rintro ⟨row, inside, rfl, read⟩
      exact ⟨row, List.mem_filter.mpr ⟨inside, read⟩, rfl⟩
  · exact sequence
  · intro key found held instruction member
    obtain ⟨_, rfl⟩ := (sequence key found).mp held
    rw [← filter_decodeRows] at member
    exact of_decide_eq_true (List.mem_filter.mp member).2
  · exact commands
  · exact faults_in_order rows options
  · rfl
  · rfl
  · exact sum
  · exact ⟨Nat.le.intro sum.symm, loaded⟩
  · intro store
    rw [loaded, Store.counts, Store.table_replace, if_pos rfl]
    rfl
  · rw [← keys_decodeRows]
    exact OrderedMap.size_group Instruction.key (decodeRows rows options)
  · show rows.countP (·.hasUnreadColumn options) = _
    refine List.countP_congr fun row _ => ?_
    rw [Row.hasUnreadColumn_iff, decide_eq_true_iff]

/-- Reading the rows in one pass, a table is built that holds each row that can be decoded once, under
its own key and in the order of the rows, and a report that accounts for all of them. Rows of different
keys may be told in any order. -/
theorem ofRows_exact (table : ScriptTable) :
    readOff rows table options = ofRows rows table options ∧
      Accounts rows table options (ofRows rows table options).value.1
        (ofRows rows table options).value.2 ∧
      ∀ others : List Row,
        (∀ key, (others.filter fun row => row.id = key) = rows.filter fun row => row.id = key) →
        (ofRows others table options).value.1 = (ofRows rows table options).value.1 := by
  refine ⟨readOff_eq rows table options, ofRows_accounts rows options table, ?_⟩
  intro others same
  refine congrArg Scripts.mk (OrderedMap.group_congr Instruction.key _ fun key => ?_)
  rw [filter_decodeRows, filter_decodeRows, decodeUnder, decodeUnder, same]

end Scripts

end WorldScripts
