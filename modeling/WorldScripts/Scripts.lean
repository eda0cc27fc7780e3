import WorldScripts.Decode
import WorldScripts.Log
import WorldScripts.OrderedMap
import WorldScripts.ScriptTable
import WorldScripts.Texts

/-!
The scripts of a table: the commands under each trigger key, in the order of loading. Rows that cannot
be decoded are left out and reported.
-/

namespace WorldScripts

/-- The commands under each trigger key. -/
structure Scripts where
  byKey : OrderedMap UInt32 (List Instruction) := .empty
  deriving DecidableEq

namespace Scripts

instance : Inhabited Scripts := ⟨{}⟩

/-- The commands under a key, none for a key that has no script. -/
def lookup (scripts : Scripts) (key : UInt32) : List Instruction :=
  (scripts.byKey.find? key).getD []

def contains (scripts : Scripts) (key : UInt32) : Bool :=
  scripts.byKey.contains key

def keyCount (scripts : Scripts) : Nat :=
  scripts.byKey.size

def commands (scripts : Scripts) : List Instruction :=
  scripts.byKey.values.flatten

def commandCount (scripts : Scripts) : Nat :=
  scripts.commands.length

end Scripts

structure LoadReport where
  table : ScriptTable
  rows : Nat
  keys : Nat
  skipped : List DecodeError
  /-- How many rows are in use although they fill columns that their command never reads. -/
  warnings : Nat
  /-- The texts in use that are not loaded, in ascending order. -/
  missingTexts : List Int32 := []
  deriving DecidableEq

def LoadReport.loaded (report : LoadReport) : Nat :=
  report.rows - report.skipped.length

def LoadReport.total (number : LoadReport → Nat) (reports : List LoadReport) : Nat :=
  reports.foldr (fun report rest => number report + rest) 0

namespace Row

def unreadColumns (row : Row) (instruction : Instruction) : List Column :=
  row.unusedColumns instruction.traits.columns

/-- A row that is kept, but fills columns that its command never reads. -/
def hasUnreadColumn (row : Row) (options : DecodeOptions) : Bool :=
  match row.decode options with
  | .ok instruction => !(row.unreadColumns instruction).isEmpty
  | .error _ => false

def loadLines (row : Row) (table : ScriptTable) (options : DecodeOptions) : List LogLine :=
  match row.decode options with
  | .error error => [.error s!"{table}: {error.message}, row skipped"]
  | .ok instruction =>
      let unread := row.unreadColumns instruction
      if unread.isEmpty then []
      else
        [.warn (s!"{table}: script {instruction.key} {instruction.tag} has values in unused columns " ++
          ", ".intercalate (unread.map Column.name))]

end Row

def decodeRows (rows : List Row) (options : DecodeOptions) : List Instruction :=
  rows.filterMap fun row => (row.decode options).toOption

namespace Scripts

def ofInstructions (instructions : List Instruction) : Scripts :=
  ⟨.group Instruction.key instructions⟩

def reportRows (rows : List Row) (table : ScriptTable) (options : DecodeOptions) : LoadReport where
  table := table
  rows := rows.length
  keys := (ofInstructions (decodeRows rows options)).keyCount
  skipped := validateRows rows options
  warnings := rows.countP (·.hasUnreadColumn options)

def ofRows (rows : List Row) (table : ScriptTable) (options : DecodeOptions) :
    Logged (Scripts × LoadReport) :=
  let report := reportRows rows table options
  let line := s!"{table}: {report.loaded} commands for {report.keys} keys loaded " ++
    s!"({report.skipped.length} rows skipped)"
  ⟨(ofInstructions (decodeRows rows options), report),
    rows.flatMap (·.loadLines table options) ++ [.info line]⟩

/-- The texts that the scripts of a table may speak and that are not loaded, with a line for each
command and text. -/
def checkTexts (scripts : Scripts) (table : ScriptTable) (texts : Texts) : Logged (List Int32) :=
  let missing (instruction : Instruction) := texts.missing instruction.command.texts
  let line (instruction : Instruction) (id : Int32) : LogLine :=
    .error s!"{table}: script {instruction.key} {instruction.tag} uses text {id}, which is not loaded"
  ⟨texts.missing (scripts.commands.flatMap fun instruction => instruction.command.texts),
    scripts.commands.flatMap fun instruction => (missing instruction).map (line instruction)⟩

end Scripts

end WorldScripts
