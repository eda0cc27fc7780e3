import WorldScripts.Engine
import WorldScripts.Loading
import WorldScripts.Registry
import WorldScripts.Speech
import WorldScripts.Store
import WorldScripts.Trigger

/-!
The script manager: the loaded tables, texts, names and waypoints, and the engine that runs what is
started. Tables can be reloaded while scripts are running; what is running keeps the commands it was
started with.
-/

namespace WorldScripts

structure Manager where
  config : Config := {}
  store : Store := {}
  registry : Registry := {}
  texts : Texts := {}
  waypoints : Waypoints := {}
  engine : Engine := {}

namespace Manager

instance : Inhabited Manager := ⟨{}⟩

def fill (store : Store) : List (Scripts × LoadReport) → Logged Store
  | [] => pure store
  | (scripts, report) :: rest => do fill (← store.replace report.table scripts) rest

def load (files : Files) (config : Config) : Loading (Manager × List LoadReport) := do
  let data ← (loadData files config).adapt .inData
  let registry ← Loading.keep (Registry.ofNames data.names)
  let store ← Loading.keep (fill {} data.tables)
  let reports := data.tables.map (·.2)
  let loaded := LoadReport.total LoadReport.loaded reports
  Loading.tell
    (.info s!"script manager ready: {loaded} commands in {reports.length} tables")
  pure ({ config, store, registry, texts := data.texts, waypoints := data.waypoints }, reports)

/-- Starts the script of a trigger; answers whether there is one. -/
def start (manager : Manager) (trigger : Trigger) (roles : Roles) (now : UInt64) (world : World) :
    Logged (Bool × Manager) := do
  let commands := manager.store.lookup trigger.table trigger.key
  let (started, engine) ←
    manager.engine.fire trigger.table trigger.key commands roles now world
  pure (started, { manager with engine })

def update (manager : Manager) (now : UInt64) (world : World) : EngineRun :=
  manager.engine.update now world manager.texts

/-- Drops the waiting scripts of an entity that has left the world. -/
def entityRemoved (manager : Manager) (guid : Guid) : Logged (Nat × Manager) := do
  let (dropped, engine) ← manager.engine.cancelFor guid
  pure (dropped, { manager with engine })

/-- Loads a table again. After an error the table stays as it was. -/
def reload (manager : Manager) (files : Files) (table : ScriptTable) :
    Logged (Except LoadError LoadReport × Manager) := do
  match ← (loadScripts files manager.config manager.texts table).run with
  | .ok (scripts, report) =>
      let store ← manager.store.replace table scripts
      Logged.tell (.info s!"reloaded {table}: {report.loaded} commands")
      pure (.ok report, { manager with store })
  | .error error =>
      Logged.tell
        (.error s!"reload of {table} failed, keeping the loaded scripts: {error.message}")
      pure (.error error, manager)

def reloadTables (manager : Manager) (files : Files) :
    List ScriptTable → Logged (List (ScriptTable × Except LoadError LoadReport) × Manager)
  | [] => pure ([], manager)
  | table :: rest => do
      let (result, manager) ← manager.reload files table
      let (results, manager) ← reloadTables manager files rest
      pure ((table, result) :: results, manager)

def reloadAll (manager : Manager) (files : Files) :
    Logged (List (ScriptTable × Except LoadError LoadReport) × Manager) :=
  manager.reloadTables files ScriptTable.all

def isScriptScheduled (manager : Manager) : Bool :=
  manager.engine.counter.isScriptScheduled

end Manager

end WorldScripts
