import WorldScripts.Config
import WorldScripts.Scripts
import WorldScripts.Stored

/-!
Loading the data of the engine. A file that is missing counts as one with nothing in it; one that is
there has to be readable. What was logged before an error came up stays logged.
-/

namespace WorldScripts

abbrev Loading := ExceptT LoadError Logged

namespace Loading

def tell (line : LogLine) : Loading Unit :=
  ExceptT.lift (Logged.tell line)

def keep {α : Type} (logged : Logged α) : Loading α :=
  ExceptT.lift logged

def ofExcept {α : Type} (result : Except LoadError α) : Loading α :=
  ExceptT.mk ⟨result, []⟩

end Loading

namespace Files

def readAs {α : Type} (files : Files) (use : FileUse) (read? : String → Option α) (path : String) :
    Except LoadError α :=
  match files path with
  | .error fault => .error (.unreadable use path fault)
  | .ok text =>
      match read? text with
      | some value => .ok value
      | none => .error (.malformed use path)

def rows (files : Files) (path : String) (table : ScriptTable) : Except LoadError (List Row) :=
  (files.readAs .rows readRows? path).mapError (.inTable table)

def scriptNames (files : Files) (path : String) : Except LoadError ScriptNames := do
  let names ← files.readAs .scriptNames readScriptNames? path
  if names.faults.isEmpty then .ok names else .error (.badBindings names.faults)

end Files

def loadTexts (files : Files) (path : String) : Loading Texts := do
  Loading.keep (Texts.ofRows (← Loading.ofExcept (files.readAs .texts readTextRows? path)))

def loadScriptNames (files : Files) (path : String) : Loading ScriptNames :=
  Loading.ofExcept (files.scriptNames path)

def loadWaypoints (files : Files) (path : String) : Loading Waypoints := do
  Loading.keep (Waypoints.ofFile (← Loading.ofExcept (files.readAs .waypoints readWaypoints? path)))

def loadTable (files : Files) (path : String) (table : ScriptTable) (options : DecodeOptions) :
    Loading (Scripts × LoadReport) := do
  Loading.keep (Scripts.ofRows (← Loading.ofExcept (files.rows path table)) table options)

/-- Loads a file if it is there, or starts without it. -/
def loadIfPresent {α : Type} [Inhabited α] (files : Files) (path what : String)
    (load : Files → String → Loading α) : Loading α :=
  if files.present path then load files path
  else do
    Loading.tell (.warn s!"no {what} file at '{path}', starting without {what}")
    pure default

/-- Loads the table that a configuration tells of, and checks its texts. -/
def loadScripts (files : Files) (config : Config) (texts : Texts) (table : ScriptTable) :
    Loading (Scripts × LoadReport) := do
  let path := config.tablePath table
  let (scripts, report) ←
    if files.present path then loadTable files path table config.decodeOptions
    else do
      Loading.tell (.warn s!"no rows file for {table} at '{path}', table is empty")
      Loading.keep (Scripts.ofRows [] table config.decodeOptions)
  let missing ← Loading.keep (scripts.checkTexts table texts)
  pure (scripts, { report with missingTexts := missing })

structure LoadedData where
  texts : Texts
  names : ScriptNames
  waypoints : Waypoints
  tables : List (Scripts × LoadReport)

def loadData (files : Files) (config : Config) : Loading LoadedData := do
  let texts ← loadIfPresent files config.textsPath "script text" loadTexts
  let names ← loadIfPresent files config.namesPath "script name" loadScriptNames
  let waypoints ← loadIfPresent files config.waypointsPath "waypoint" loadWaypoints
  let tables ← ScriptTable.all.mapM (loadScripts files config texts)
  pure { texts, names, waypoints, tables }

end WorldScripts
