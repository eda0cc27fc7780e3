import WorldScripts.Exchange.Report
import WorldScripts.Files.System
import WorldScripts.Manager

/-!
The exchange form of files, of the configuration, and of what is loaded from files.
-/

namespace WorldScripts

def Node.ofJson (json : Json) : Node :=
  match json with
  | .string text => .file (some text)
  | .object _ =>
      let bytes := (json.itemsOf "bytes").map Json.toUInt8
      .file (String.fromUTF8? ⟨bytes.toArray⟩)
  | _ => .directory

def Tree.writeJson (tree : Tree) (json : Json) : Tree :=
  match json with
  | .object entries => entries.foldl (fun tree (path, node) => tree.write path (.ofJson node)) tree
  | _ => tree

namespace Config

def fields (config : Config) : List (String × Json) :=
  [("data_dir", config.dataDir), ("max_search_radius", .ofFloat32 config.maxSearchRadius),
    ("decode_radius", .ofFloat32 config.decodeOptions.maxSearchRadius),
    ("files", .ofList .string [config.textsFile, config.namesFile, config.waypointsFile]),
    ("overrides",
      .object (config.overrides.map fun (table, file) => (table.name, Json.string file))),
    ("data_root", config.dataRoot), ("texts_path", config.textsPath),
    ("table_paths", .ofList (fun table => .string (config.tablePath table)) ScriptTable.all)]

def toJson (config : Config) : Json :=
  .object config.fields

end Config

namespace LoadError

/-- The findings of the system have a mark in their place. -/
def fields (error : LoadError) : List (String × Json) :=
  [("error", "LoadError"), ("message", .string (": ".intercalate (error.parts fun _ => "<io>")))]

def toJson (error : LoadError) : Json :=
  .object error.fields

end LoadError

def Json.ofReload (result : Except LoadError LoadReport) : Json :=
  match result with
  | .ok report => report.toJson
  | .error error => error.toJson

def Trigger.ofName? (name : String) (key : UInt32) : Option Trigger :=
  match name with
  | "QuestEnd" => some (.questEnd key)
  | "QuestStart" => some (.questStart key)
  | "Spell" => some (.spell key)
  | "GameObjectUse" => some (.gameObjectUse key)
  | "GameObjectTemplate" => some (.gameObjectTemplate key)
  | "Event" => some (.event key)
  | "Gossip" => some (.gossip key)
  | "CreatureDeath" => some (.creatureDeath key)
  | "CreatureMovement" => some (.creatureMovement key)
  | _ => none

namespace Manager

def scheduledToJson (manager : Manager) : Json :=
  .array [.bool manager.isScriptScheduled, .ofNat manager.engine.counter.count,
    .ofNat manager.engine.pending]

def loadedFields (manager : Manager) (reports : List LoadReport) : List (String × Json) :=
  [("reports", .ofList LoadReport.toJson reports), ("texts", .ofNat manager.texts.size),
    ("names", .ofNat manager.registry.idCount), ("paths", .ofNat manager.waypoints.pathCount),
    ("data_root", .string manager.config.dataRoot)]

end Manager

end WorldScripts
