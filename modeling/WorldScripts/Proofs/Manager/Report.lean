import Mathlib.Algebra.GroupWithZero.Nat
import WorldScripts.Proofs.Manager.Loading
import WorldScripts.Proofs.Scripts.Speech
import WorldScripts.Summary

/-!
The summary of loaded data. Table by table it tells how much was kept and what is wrong with the rows,
in the order of the file. The warnings of a table are left out, though, where there is nothing else to
tell of it.
-/

namespace WorldScripts

namespace LoadReport

/-- A report says of the rows of a table what there is to say. -/
structure Covers (report : LoadReport) (rows : List Row) (options : DecodeOptions) (texts : Texts) :
    Prop where
  kept : report.loaded = rows.countP fun row => (row.decode options).isOk
  keys : report.keys =
    ((rows.filter fun row => (row.decode options).isOk).map (·.id)).toFinset.card
  skipped : List.Forall₂ (fun row fault => row.decode options = .error fault)
    (rows.filter fun row => !(row.decode options).isOk) report.skipped
  warnings : report.warnings = rows.countP fun row => row.FillsUnread options
  ascending : report.missingTexts.Pairwise (· < ·)
  missing : ∀ id, id ∈ report.missingTexts ↔ texts.contains id = false ∧
    ∃ row ∈ rows, ∃ instruction, row.decode options = .ok instruction ∧
      id ∈ instruction.command.texts

/-- There is nothing wrong with a table but unread columns. -/
structure OnlyWarnings (report : LoadReport) : Prop where
  skipped : report.skipped = []
  missing : report.missingTexts = []
  warnings : 0 < report.warnings

variable (report : LoadReport)

theorem onlyWarnings_iff :
    report.OnlyWarnings ↔ report.skipped = [] ∧ report.missingTexts = [] ∧ 0 < report.warnings :=
  ⟨fun only => ⟨only.skipped, only.missing, only.warnings⟩,
    fun ⟨skipped, missing, warnings⟩ => ⟨skipped, missing, warnings⟩⟩

instance : Decidable report.OnlyWarnings :=
  decidable_of_iff _ report.onlyWarnings_iff.symm

def skippedLines : List String :=
  report.skipped.map fun fault => s!"    skipped: {fault.message}"

def warningLines : List String :=
  if 0 < report.warnings then [s!"    {report.warnings} rows with values in unused columns"] else []

def missingLines : List String :=
  if report.missingTexts = [] then []
  else ["    missing texts: " ++ ", ".intercalate (report.missingTexts.map toString)]

/-- The lines of a table without anything left out. -/
def fullLines : List String :=
  report.headline :: (report.skippedLines ++ report.warningLines ++ report.missingLines)

def printedLines : List String :=
  if report.OnlyWarnings then [report.headline] else report.fullLines

theorem warningLines_eq : report.warningLines =
    if report.warnings = 0 then []
    else [s!"    {report.warnings} rows with values in unused columns"] := by
  unfold warningLines
  by_cases none : report.warnings = 0
  · rw [if_pos none, if_neg (Nat.not_lt.mpr (Nat.le_of_eq none))]
  · rw [if_neg none, if_pos (Nat.pos_of_ne_zero none)]

theorem fullLines_of_clean (skipped : report.skipped = []) (missing : report.missingTexts = []) :
    report.fullLines = report.headline :: report.warningLines := by
  simp [fullLines, skippedLines, missingLines, skipped, missing]

theorem summary_eq : report.summary = report.printedLines := by
  unfold summary printedLines
  by_cases clean : report.skipped = [] ∧ report.missingTexts = []
  · obtain ⟨skipped, missing⟩ := clean
    rw [fullLines_of_clean report skipped missing, warningLines]
    by_cases warned : 0 < report.warnings
    · simp [onlyWarnings_iff, skipped, missing, warned]
    · simp [onlyWarnings_iff, skipped, missing, warned]
  · have told : ¬ report.OnlyWarnings := fun only => clean ⟨only.skipped, only.missing⟩
    rw [if_neg told, if_neg (by simpa using clean), fullLines, warningLines_eq]
    simp [skippedLines, missingLines]

-- At most the line about the warnings is missing.
theorem length_fullLines :
    report.fullLines.length = report.printedLines.length + if report.OnlyWarnings then 1 else 0 := by
  unfold printedLines
  by_cases only : report.OnlyWarnings
  · rw [if_pos only, if_pos only, fullLines_of_clean report only.skipped only.missing, warningLines,
      if_pos only.warnings]
    rfl
  · rw [if_neg only, if_neg only]
    rfl

end LoadReport

theorem length_flatMap_fullLines (reports : List LoadReport) :
    (reports.flatMap LoadReport.fullLines).length =
      (reports.flatMap LoadReport.printedLines).length +
        reports.countP fun report => report.OnlyWarnings := by
  induction reports with
  | nil => rfl
  | cons report rest ih =>
      rw [List.flatMap_cons, List.flatMap_cons, List.length_append, List.length_append, ih,
        report.length_fullLines, List.countP_cons]
      simp only [decide_eq_true_eq]
      omega

theorem flatMap_printedLines_eq_iff (reports : List LoadReport) :
    reports.flatMap LoadReport.printedLines = reports.flatMap LoadReport.fullLines ↔
      ∀ report ∈ reports, ¬ report.OnlyWarnings := by
  constructor
  · intro same report member only
    have missing := length_flatMap_fullLines reports
    have counted : 0 < reports.countP fun report => report.OnlyWarnings :=
      List.countP_pos_iff.mpr ⟨report, member, decide_eq_true only⟩
    rw [← same] at missing
    omega
  · intro none
    apply List.flatMap_congr
    intro report member
    exact if_neg (none report member)

namespace Scripts

variable (rows : List Row) (config : Config) (texts : Texts) (table : ScriptTable)

theorem checked_covers :
    (checked rows config texts table).2.Covers rows config.decodeOptions texts := by
  have accounts := ofRows_accounts rows config.decodeOptions table
  constructor
  · calc (checked rows config texts table).2.loaded
        = (ofRows rows table config.decodeOptions).value.1.commandCount := accounts.loaded.2
      _ = ((decodeRows rows config.decodeOptions).map Instruction.key).length := by
          rw [List.length_map]
          exact accounts.commands.length_eq
      _ = rows.countP fun row => (row.decode config.decodeOptions).isOk := by
          rw [keys_decodeRows, List.length_map, List.countP_eq_length_filter]
  · exact accounts.keys
  · exact accounts.skipped
  · exact accounts.warnings
  · exact Texts.missing_ascending _ _
  · intro id
    rw [show (checked rows config texts table).2.missingTexts =
      ((ofRows rows table config.decodeOptions).value.1.checkTexts table texts).value from rfl,
      mem_checkTexts]
    simp only [mem_commands_ofRows]
    constructor
    · rintro ⟨lost, instruction, ⟨row, member, read⟩, named⟩
      exact ⟨lost, row, member, instruction, read, named⟩
    · rintro ⟨lost, row, member, instruction, read, named⟩
      exact ⟨lost, instruction, ⟨row, member, read⟩, named⟩

end Scripts

namespace Manager

variable (manager : Manager) (reports : List LoadReport)

def headline : String :=
  s!"script data in '{manager.config.dataRoot}'"

def totals : String :=
  s!"{manager.texts.size} texts, {manager.registry.idCount - 1} script names, " ++
    s!"{manager.waypoints.pathCount} waypoint paths"

def rejectedLines : List String :=
  if ∃ report ∈ reports, report.skipped ≠ [] then
    [s!"{(reports.map fun report => report.skipped.length).sum} rows rejected"]
  else []

/-- All lines, with each table told of in the same way. -/
def linesBy (tell : LoadReport → List String) : List String :=
  manager.headline :: reports.flatMap tell ++ [manager.totals] ++ rejectedLines reports

theorem total_eq (number : LoadReport → Nat) :
    LoadReport.total number reports = (reports.map number).sum := by
  rw [LoadReport.total, List.sum, List.foldr_map]

theorem rejectedLines_eq :
    let rejected := LoadReport.total (fun report => report.skipped.length) reports
    (if rejected = 0 then [] else [s!"{rejected} rows rejected"]) = rejectedLines reports := by
  intro rejected
  have none : rejected = 0 ↔ ¬ ∃ report ∈ reports, report.skipped ≠ [] := by
    simp [rejected, total_eq, List.sum_eq_zero_iff_forall_eq_nat]
  unfold rejectedLines
  by_cases some : ∃ report ∈ reports, report.skipped ≠ []
  · rw [if_pos some, if_neg fun zero => none.mp zero some, ← total_eq]
  · rw [if_neg some, if_pos (none.mpr some)]

theorem summary_lines : manager.summary reports = manager.linesBy reports LoadReport.printedLines := by
  rw [summary, rejectedLines_eq, funext LoadReport.summary_eq]
  rfl

theorem linesBy_eq_iff (tell tell' : LoadReport → List String) :
    manager.linesBy reports tell = manager.linesBy reports tell' ↔
      reports.flatMap tell = reports.flatMap tell' := by
  simp [linesBy]

theorem summarize_of_load {files : Files} {path : String} {manager : Manager}
    {reports : List LoadReport}
    (loaded : (load files (Config.load files path).value).run.value = .ok (manager, reports)) :
    (summarize files path).value = .ok (manager.summary reports) := by
  simp only [summarize, bind, loaded]
  rfl

theorem exists_loaded {ε α : Type} {result : Except ε α} {wanted : α → Bool}
    (found : result.toOption.any wanted = true) :
    ∃ loaded, result = .ok loaded ∧ wanted loaded = true := by
  cases result with
  | error error => cases found
  | ok loaded => exact ⟨loaded, rfl, found⟩

/-- Whatever was loaded is told of: of the nine tables in their order, what there is to say of the rows of
each, and at last how many rows were left out of all of them, if any were. Nothing is missing exactly if no
table has warned only, whose line is passed over. -/
theorem summarize_fullLines_iff {files : Files} {path : String} {manager : Manager}
    {reports : List LoadReport}
    (loaded : (load files (Config.load files path).value).run.value = .ok (manager, reports)) :
    let config := (Config.load files path).value
    List.Forall₂ (fun table report => report.table = table ∧
        ∃ rows, files.Supplies (config.tablePath table) rows ∧
          report.Covers rows config.decodeOptions manager.texts)
      ScriptTable.all reports ∧
      ∃ lines, (summarize files path).value = .ok lines ∧
        lines = manager.linesBy reports LoadReport.printedLines ∧
        (lines = manager.linesBy reports LoadReport.fullLines ↔
          ∀ report ∈ reports, ¬ report.OnlyWarnings) := by
  intro config
  constructor
  · obtain ⟨entries, rfl, held⟩ := load_tables loaded
    rw [List.forall₂_map_right_iff]
    apply held.imp
    rintro table entry ⟨_, read⟩
    rw [config_of_load loaded] at read
    obtain ⟨rows, supplies, rfl⟩ := loadScripts_eq_ok.mp read
    exact ⟨rfl, rows, supplies, Scripts.checked_covers rows config manager.texts table⟩
  · have lines := manager.summary_lines reports
    refine ⟨manager.summary reports, summarize_of_load loaded, lines, ?_⟩
    rw [lines, linesBy_eq_iff, flatMap_printedLines_eq_iff]

-- A row with an unread column, one that is left out, and one with a text that is not there.
def faultyFiles : Files
  | "./event_scripts.ron" =>
      .ok "[(id: 1, command: 41, datalong: 3), (id: 8, command: 77), (id: 2, dataint: 2000000009)]"
  | _ => .error .noSuchFile

theorem faultyFiles_fullLines :
    ∃ manager reports,
      (load faultyFiles (Config.load faultyFiles "engine.toml").value).run.value = .ok (manager, reports) ∧
        (∃ report ∈ reports,
          report.skipped ≠ [] ∧ 0 < report.warnings ∧ report.missingTexts ≠ []) ∧
        (summarize faultyFiles "engine.toml").value =
          .ok (manager.linesBy reports LoadReport.fullLines) := by
  have found : ((load faultyFiles (Config.load faultyFiles "engine.toml").value).run.value.toOption.any
      fun loaded => decide ((∃ report ∈ loaded.2, report.skipped ≠ [] ∧ 0 < report.warnings ∧
        report.missingTexts ≠ []) ∧ ∀ report ∈ loaded.2, ¬ report.OnlyWarnings)) = true := by
    decide +kernel
  obtain ⟨⟨manager, reports⟩, loaded, right⟩ := exists_loaded found
  obtain ⟨wrong, told⟩ := of_decide_eq_true right
  obtain ⟨_, lines, summarized, _, whole⟩ := summarize_fullLines_iff loaded
  rw [whole.mpr told] at summarized
  exact ⟨manager, reports, loaded, wrong, summarized⟩

def unreadColumnFiles : Files
  | "./event_scripts.ron" => .ok "[(id: 1, command: 41, datalong: 3)]"
  | _ => .error .noSuchFile

theorem unreadColumnFiles_printedLines :
    ∃ manager reports lines,
      (load unreadColumnFiles (Config.load unreadColumnFiles "engine.toml").value).run.value =
          .ok (manager, reports) ∧
        (summarize unreadColumnFiles "engine.toml").value = .ok lines ∧
        "    1 rows with values in unused columns" ∈
          manager.linesBy reports LoadReport.fullLines ∧
        "    1 rows with values in unused columns" ∉ lines := by
  have found :
      ((load unreadColumnFiles (Config.load unreadColumnFiles "engine.toml").value).run.value.toOption.any
        fun loaded => decide ("    1 rows with values in unused columns" ∈
          loaded.1.linesBy loaded.2 LoadReport.fullLines ∧
        "    1 rows with values in unused columns" ∉ loaded.1.summary loaded.2)) = true := by
    decide +kernel
  obtain ⟨⟨manager, reports⟩, loaded, right⟩ := exists_loaded found
  obtain ⟨wanted, missing⟩ := of_decide_eq_true right
  exact ⟨manager, reports, _, loaded, summarize_of_load loaded, wanted, missing⟩

end Manager

end WorldScripts
