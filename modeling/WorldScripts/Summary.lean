import WorldScripts.Manager

/-!
What the command line tells of loaded data: a line for each table, with what is wrong with it below,
and how much there is of everything else.
-/

namespace WorldScripts

def padRight (width : Nat) (text : String) : String :=
  text.pushn ' ' (width - text.length)

def padLeft (width : Nat) (text : String) : String :=
  "".pushn ' ' (width - text.length) ++ text

namespace LoadReport

def headline (report : LoadReport) : String :=
  s!"{padRight 30 report.table.name} {padLeft 6 (toString report.loaded)} commands " ++
    s!"{padLeft 6 (toString report.keys)} keys"

/-- The lines for a table. Warnings are told of only where rows were rejected or texts are missing, too. -/
def summary (report : LoadReport) : List String :=
  if report.skipped.isEmpty && report.missingTexts.isEmpty then [report.headline]
  else
    report.headline :: report.skipped.map (fun error => s!"    skipped: {error.message}") ++
      (if report.warnings = 0 then []
      else [s!"    {report.warnings} rows with values in unused columns"]) ++
      (if report.missingTexts.isEmpty then []
      else ["    missing texts: " ++ ", ".intercalate (report.missingTexts.map toString)])

end LoadReport

def Manager.summary (manager : Manager) (reports : List LoadReport) : List String :=
  let rejected := LoadReport.total (fun report => report.skipped.length) reports
  s!"script data in '{manager.config.dataRoot}'" :: reports.flatMap LoadReport.summary ++
    [s!"{manager.texts.size} texts, {manager.registry.idCount - 1} script names, " ++
      s!"{manager.waypoints.pathCount} waypoint paths"] ++
    (if rejected = 0 then [] else [s!"{rejected} rows rejected"])

def summarize (files : Files) (path : String) : Logged (Except LoadError (List String)) := do
  match ← (Manager.load files (← Config.load files path)).run with
  | .ok (manager, reports) => pure (.ok (manager.summary reports))
  | .error error => pure (.error error)

end WorldScripts
