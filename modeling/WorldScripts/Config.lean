import WorldScripts.Decode.Buddy
import WorldScripts.Files.Path
import WorldScripts.LoadError
import WorldScripts.Log
import WorldScripts.Toml.Reader

/-!
The configuration of the engine: where its data is and how strictly rows are decoded. It can always
be loaded. If there is something wrong with the file, that is logged, and the usual settings apply.
-/

namespace WorldScripts

structure Settings where
  dataDir : String := "."
  maxSearchRadius : Float32 := visibleRange
  textsFile : String := "db_script_string.ron"
  namesFile : String := "script_names.ron"
  waypointsFile : String := "script_waypoints.ron"
  deriving DecidableEq

/-- The settings as they are stored. Tables are known by name, and none of the settings has been
looked at. -/
structure StoredConfig extends Settings where
  tables : List (String × String) := []

namespace Toml

def toString? : Toml → Option String
  | string text => some text
  | _ => none

def toFloat32? : Toml → Option Float32
  | integer n => some (Numeral.ofInt n).toFloat32
  | float x => some (Binary32.ofFloat64 x)
  | _ => none

/-- The name under which the text of a moment is found in a table that it is taken for. -/
def momentField : String := "$__toml_private_datetime"

def toTexts? : Toml → Option (List (String × String))
  | table _ entries => entries.mapM fun (name, value) => do some (name, ← value.toString?)
  | moment text => some [(momentField, text)]
  | _ => none

def setting {α : Type} (entries : Entries) (read : Toml → Option α) (name : String) (default : α) :
    Option α :=
  match find? name entries with
  | some value => read value
  | none => some default

end Toml

def StoredConfig.ofToml? (entries : Toml.Entries) : Option StoredConfig := do
  let usual : StoredConfig := {}
  return {
    dataDir := ← Toml.setting entries Toml.toString? "data_dir" usual.dataDir
    maxSearchRadius :=
      ← Toml.setting entries Toml.toFloat32? "max_search_radius" usual.maxSearchRadius
    textsFile := ← Toml.setting entries Toml.toString? "texts_file" usual.textsFile
    namesFile := ← Toml.setting entries Toml.toString? "names_file" usual.namesFile
    waypointsFile := ← Toml.setting entries Toml.toString? "waypoints_file" usual.waypointsFile
    tables := ← Toml.setting entries Toml.toTexts? "tables" usual.tables }

structure Config extends Settings where
  /-- Tables with files of other names than usual. -/
  overrides : List (ScriptTable × String) := []
  baseDir : String := ""
  deriving DecidableEq

namespace Config

instance : Inhabited Config := ⟨{}⟩

def inDir (dir : String) : Config :=
  { baseDir := dir }

def dataRoot (config : Config) : String :=
  Path.join config.baseDir config.dataDir

def pathOf (config : Config) (file : String) : String :=
  Path.join config.dataRoot file

def textsPath (config : Config) : String := config.pathOf config.textsFile
def namesPath (config : Config) : String := config.pathOf config.namesFile
def waypointsPath (config : Config) : String := config.pathOf config.waypointsFile

def fileOf (config : Config) (table : ScriptTable) : String :=
  match config.overrides.find? fun entry => entry.1 == table with
  | some (_, file) => file
  | none => table.name ++ ".ron"

def tablePath (config : Config) (table : ScriptTable) : String :=
  config.pathOf (config.fileOf table)

def paths (config : Config) : List String :=
  config.textsPath :: config.namesPath :: config.waypointsPath ::
    ScriptTable.all.map config.tablePath

def decodeOptions (config : Config) : DecodeOptions :=
  { maxSearchRadius := config.maxSearchRadius }

end Config

def isRadius (radius : Float32) : Bool :=
  radius.isFinite && 0 < radius

def StoredConfig.unknownTables (stored : StoredConfig) : List String :=
  let names := stored.tables.map (·.1)
  (names.filter fun name => (ScriptTable.ofName? name).isNone).mergeSort fun a b => a ≤ b

def StoredConfig.check (stored : StoredConfig) (path : String) : Except LoadError Config :=
  if !isRadius stored.maxSearchRadius then .error (.badRadius path stored.maxSearchRadius)
  else if !stored.unknownTables.isEmpty then .error (.unknownTables path stored.unknownTables)
  else
    .ok { stored.toSettings with
      overrides := stored.tables.filterMap fun (name, file) =>
        (ScriptTable.ofName? name).map fun table => (table, file)
      baseDir := Path.parent path }

namespace Config

def read (files : Files) (path : String) : Except LoadError Config :=
  match files path with
  | .error fault => .error (.unreadable .settings path fault)
  | .ok text =>
      match (Toml.parse? text).bind StoredConfig.ofToml? with
      | none => .error (.malformed .settings path)
      | some stored => stored.check path

/-- The settings from a file, or the usual ones for the directory of that file. -/
def load (files : Files) (path : String) : Logged Config :=
  match read files path with
  | .ok config => ⟨config, [.info s!"engine configuration loaded from '{path}'"]⟩
  | .error error =>
      ⟨inDir (Path.parent path),
        [.warn (s!"Could not load engine configuration from '{path}': {error.message}. " ++
          "Using defaults.")]⟩

end Config

end WorldScripts
