import WorldScripts.Proofs.Binary32.Order
import WorldScripts.Proofs.Config.Settings
import WorldScripts.Proofs.Decode.Parts
import WorldScripts.Proofs.Manager.Reloading
import WorldScripts.Proofs.Scripts.Speech

/-!
How far commands search. Every table is made of rows that were read under the settings in use, when it was
loaded and whenever it was reloaded since. The radius of these settings is a number, so no command that is
kept searches further.
-/

namespace WorldScripts

/-- The buddy is searched for around somebody, by its template. -/
structure Instruction.SearchesAround (instruction : Instruction) : Prop where
  somebody : instruction.buddy.isSet = true
  byEntry : instruction.flags.buddyByGuid = false
  noPet : instruction.flags.buddyIsPet = false

instance (instruction : Instruction) : Decidable instruction.SearchesAround :=
  decidable_of_iff (instruction.buddy.isSet = true ∧ instruction.flags.buddyByGuid = false ∧
      instruction.flags.buddyIsPet = false)
    ⟨fun ⟨somebody, byEntry, noPet⟩ => ⟨somebody, byEntry, noPet⟩,
      fun ⟨somebody, byEntry, noPet⟩ => ⟨somebody, byEntry, noPet⟩⟩

structure Instruction.Within (instruction : Instruction) (limit : Float32) : Prop where
  positive : 1 ≤ instruction.buddy.radiusOrGuid
  bounded : instruction.buddy.radiusOrGuid.toFloat32 ≤ limit

namespace Row

variable {row : Row} {options : DecodeOptions} {instruction : Instruction}

theorem buddy_faultless (row : Row) (options : DecodeOptions) (traits : Traits) (flags : RowFlags) :
    Yields (row.buddy options traits flags) fun buddy =>
      buddyFault? options flags buddy.entry buddy.radiusOrGuid = none := by
  rw [buddy, yields_bind]
  rintro ⟨entry, radiusOrGuid⟩ _
  dsimp only
  split
  · exact yields_error _
  · rename_i faultless
    exact (yields_ok _).mpr faultless

theorem within_of_decode (read : row.decode options = .ok instruction)
    (number : options.maxSearchRadius.isNaN = false) (searches : instruction.SearchesAround) :
    instruction.Within options.maxSearchRadius := by
  have parts := decode_eq_ok.mp read
  have faultless := row.buddy_faultless options _ _ _ parts.buddy
  have somebody : instruction.buddy.entry ≠ 0 := bne_iff_ne.mp searches.somebody
  simp only [buddyFault?, somebody, searches.byEntry, searches.noPet, if_false, ite_eq_right_iff,
    reduceCtorEq, imp_false, Bool.or_eq_true, decide_eq_true_eq, not_or] at faultless
  obtain ⟨filled, near⟩ := faultless
  constructor
  · have positive := (Binary32.zero_or_pos instruction.buddy.radiusOrGuid).resolve_left filled
    exact UInt32.le_iff_toNat_le.mpr (UInt32.lt_iff_toNat_lt.mp positive)
  · have finite := Binary32.toFloat32_isFinite instruction.buddy.radiusOrGuid
    exact Binary32.le_of_not_lt (Binary32.isNaN_of_isFinite finite) number near

end Row

namespace Manager

/-- Something is loaded again, from files that may have changed. -/
inductive Refresh where
  | one (files : Files) (table : ScriptTable)
  | all (files : Files)

def refresh (manager : Manager) : Refresh → Manager
  | .one files table => (manager.reload files table).value.2
  | .all files => (manager.reloadAll files).value.2

def refreshAll (manager : Manager) (refreshes : List Refresh) : Manager :=
  refreshes.foldl refresh manager

/-- These are the settings in use, and every table is made of rows that were read under them. -/
structure Follows (manager : Manager) (config : Config) : Prop where
  settings : manager.config = config
  tables : ∀ table, ∃ rows,
    manager.store.table table = (Scripts.ofRows rows table config.decodeOptions).value.1

variable {manager : Manager} {config : Config}

-- A table that was loaded is made of the rows supplied, and one that could not be is as it was.
theorem Follows.renewed (follows : manager.Follows config) (files : Files) (table : ScriptTable) :
    ∃ rows, manager.renewed files table =
      (Scripts.ofRows rows table config.decodeOptions).value.1 := by
  cases attempted : manager.attempt files table with
  | error error =>
      rw [renewed_of_error attempted]
      exact follows.tables table
  | ok entry =>
      obtain ⟨rows, _, rfl⟩ := loadScripts_eq_ok.mp attempted
      rw [renewed_of_ok attempted, ← follows.settings]
      exact ⟨rows, rfl⟩

theorem Follows.reloadTables (follows : manager.Follows config) (files : Files)
    (tables : List ScriptTable) : (manager.reloadTables files tables).value.2.Follows config := by
  obtain ⟨_, frame, stored⟩ := manager.reloadTables_value files tables
  constructor
  · rw [frame]
    exact follows.settings
  · intro table
    rw [stored]
    split
    · exact follows.renewed files table
    · exact follows.tables table

theorem Follows.refresh (follows : manager.Follows config) (refresh : Refresh) :
    (manager.refresh refresh).Follows config := by
  cases refresh with
  | one files table => exact follows.reloadTables files [table]
  | all files => exact follows.reloadTables files ScriptTable.all

theorem Follows.refreshAll (follows : manager.Follows config) (refreshes : List Refresh) :
    (manager.refreshAll refreshes).Follows config := by
  induction refreshes generalizing manager with
  | nil => exact follows
  | cons first rest ih => exact ih (follows.refresh first)

section

variable {files : Files} {reports : List LoadReport}

theorem table_of_load (loaded : (load files config).run.value = .ok (manager, reports))
    (table : ScriptTable) :
    ∃ entry, manager.attempt files table = .ok entry ∧ manager.store.table table = entry.1 := by
  obtain ⟨entries, _, held⟩ := load_tables loaded
  have each : List.Forall₂ (fun table _ =>
      (∃ entry, manager.attempt files table = .ok entry ∧ manager.store.table table = entry.1) ∧ True)
      ScriptTable.all entries := by
    refine held.imp ?_
    rintro table entry ⟨stored, read⟩
    exact ⟨⟨entry, read, stored⟩, trivial⟩
  exact ((List.forall₂_and_left _ _).mp each).1 table table.mem_all

theorem follows_load (loaded : (load files config).run.value = .ok (manager, reports)) :
    manager.Follows config := by
  have settings := config_of_load loaded
  refine ⟨settings, fun table => ?_⟩
  obtain ⟨entry, attempted, stored⟩ := table_of_load loaded table
  obtain ⟨rows, _, rfl⟩ := loadScripts_eq_ok.mp attempted
  rw [stored, settings]
  exact ⟨rows, rfl⟩

end

theorem Follows.within (follows : manager.Follows config)
    (number : config.maxSearchRadius.isNaN = false) (table : ScriptTable) :
    ∀ instruction ∈ (manager.store.table table).commands, instruction.SearchesAround →
      instruction.Within config.maxSearchRadius := by
  intro instruction member searches
  obtain ⟨rows, made⟩ := follows.tables table
  rw [made, Scripts.mem_commands_ofRows] at member
  obtain ⟨row, _, read⟩ := member
  exact Row.within_of_decode read number searches

/-- The settings are the stored ones if there is nothing wrong with them, so that they name no table that
there is not, and the usual ones if there is. Either way their radius is finite and positive. With these,
whatever is loaded and reloaded from whatever files, no command that is kept searches further than that. -/
theorem load_searches (files : Files) (path : String) :
    let config := (Config.load files path).value
    Config.Origin files path config ∧
      (config.maxSearchRadius.isFinite = true ∧ 0 < config.maxSearchRadius) ∧
      ∀ data manager reports, (load data config).run.value = .ok (manager, reports) →
        ∀ refreshes table, ∀ instruction ∈ ((manager.refreshAll refreshes).store.table table).commands,
          instruction.SearchesAround → instruction.Within config.maxSearchRadius := by
  intro config
  have origin := Config.load_origin files path
  have radius := origin.radius
  refine ⟨origin, radius, fun data manager reports loaded refreshes table => ?_⟩
  have follows := (follows_load loaded).refreshAll refreshes
  exact follows.within (Binary32.isNaN_of_isFinite radius.1) table

-- A radius that is set, and a command that searches just as far.
def radiusFiles : Files
  | "engine.toml" => .ok "max_search_radius = 80.0"
  | "./event_scripts.ron" =>
      .ok "[(id: 7, command: 15, datalong: 9, buddy_entry: 3, search_radius_or_guid: 80)]"
  | _ => .error .noSuchFile

theorem radiusFiles_search :
    let config := (Config.load radiusFiles "engine.toml").value
    ∃ manager reports, (load radiusFiles config).run.value = .ok (manager, reports) ∧
      ∃ instruction ∈ ((manager.refreshAll [.all radiusFiles]).store.table .event).commands,
        instruction.SearchesAround ∧ instruction.Within config.maxSearchRadius := by
  have found : ((load radiusFiles (Config.load radiusFiles "engine.toml").value).run.value.toOption.any
      fun loaded => ((loaded.1.refreshAll [.all radiusFiles]).store.table .event).commands.any
        fun instruction => decide instruction.SearchesAround) = true := by
    decide +kernel
  obtain ⟨_, _, within⟩ := load_searches radiusFiles "engine.toml"
  -- What has been found is kept, and nothing is worked out again.
  dsimp only
  generalize (Config.load radiusFiles "engine.toml").value = config at found within ⊢
  specialize within radiusFiles
  generalize (load radiusFiles config).run.value = result at found within ⊢
  rcases result with error | ⟨manager, reports⟩
  · cases found
  · simp only [Except.toOption, Option.any_some, List.any_eq_true, decide_eq_true_eq] at found
    obtain ⟨instruction, member, searches⟩ := found
    exact ⟨manager, reports, rfl, instruction, member, searches,
      within manager reports rfl _ _ instruction member searches⟩

end Manager

end WorldScripts
