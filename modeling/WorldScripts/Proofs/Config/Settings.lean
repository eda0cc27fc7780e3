import WorldScripts.Config

/-!
Which settings are in use. Settings that are stored are taken over as they are if they are sound, with a
radius that can be searched in and files for tables that there are. If they are not, or if there are none,
all of them are the usual ones, which are sound as well.
-/

namespace WorldScripts

namespace ScriptTable

variable {name : String} {table : ScriptTable}

theorem name_of_ofName? (found : ofName? name = some table) : table.name = name := by
  have named := List.find?_some (p := fun table : ScriptTable => table.name == name) found
  exact beq_iff_eq.mp named

theorem isSome_ofName? : (ofName? name).isSome = true ↔ ∃ table : ScriptTable, table.name = name := by
  rw [ofName?, List.find?_isSome]
  constructor
  · rintro ⟨table, _, named⟩
    exact ⟨table, beq_iff_eq.mp named⟩
  · rintro ⟨table, named⟩
    exact ⟨table, table.mem_all, beq_iff_eq.mpr named⟩

end ScriptTable

structure StoredConfig.Sound (stored : StoredConfig) : Prop where
  finite : stored.maxSearchRadius.isFinite = true
  positive : 0 < stored.maxSearchRadius
  tables : ∀ entry ∈ stored.tables, ∃ table : ScriptTable, table.name = entry.1

/-- The settings are the stored ones, with each table in the place of its name. -/
structure Config.Adopts (config : Config) (stored : StoredConfig) : Prop where
  settings : config.toSettings = stored.toSettings
  tables : stored.tables = config.overrides.map fun entry => (entry.1.name, entry.2)

namespace StoredConfig

variable {stored : StoredConfig}

theorem isRadius_iff (radius : Float32) :
    isRadius radius = true ↔ radius.isFinite = true ∧ 0 < radius := by
  rw [isRadius, Bool.and_eq_true, decide_eq_true_iff]

theorem mem_unknownTables {name : String} :
    name ∈ stored.unknownTables ↔
      (∃ entry ∈ stored.tables, entry.1 = name) ∧ ¬ ∃ table : ScriptTable, table.name = name := by
  rw [← ScriptTable.isSome_ofName?, Bool.not_eq_true, Option.isSome_eq_false_iff]
  simp only [unknownTables, List.mem_mergeSort, List.mem_filter, List.mem_map]

theorem unknownTables_eq_nil :
    stored.unknownTables = [] ↔
      ∀ entry ∈ stored.tables, ∃ table : ScriptTable, table.name = entry.1 := by
  simp only [List.eq_nil_iff_forall_not_mem, mem_unknownTables, not_and, Classical.not_not]
  constructor
  · intro known entry member
    exact known entry.1 ⟨entry, member, rfl⟩
  · rintro known _ ⟨entry, member, rfl⟩
    exact known entry member

theorem named_overrides {tables : List (String × String)}
    (known : ∀ entry ∈ tables, ∃ table : ScriptTable, table.name = entry.1) :
    (tables.filterMap fun (name, file) =>
        (ScriptTable.ofName? name).map fun table => (table, file)).map
      (fun entry => (entry.1.name, entry.2)) = tables := by
  induction tables with
  | nil => rfl
  | cons entry rest ih =>
      obtain ⟨first, others⟩ := List.forall_mem_cons.mp known
      obtain ⟨table, found⟩ := Option.isSome_iff_exists.mp (ScriptTable.isSome_ofName?.mpr first)
      simp [found, ScriptTable.name_of_ofName? found, ih others]

theorem check_cases (stored : StoredConfig) (path : String) :
    (stored.Sound ∧ ∃ config, stored.check path = .ok config ∧ config.Adopts stored) ∨
      ¬ stored.Sound ∧ ∃ error, stored.check path = .error error := by
  unfold check
  by_cases radius : isRadius stored.maxSearchRadius = true
  · rw [if_neg (by simp [radius])]
    by_cases tables : stored.unknownTables = []
    · rw [if_neg (by simp [tables])]
      have known := unknownTables_eq_nil.mp tables
      obtain ⟨finite, positive⟩ := (isRadius_iff _).mp radius
      exact .inl ⟨⟨finite, positive, known⟩, _, rfl, rfl, (named_overrides known).symm⟩
    · rw [if_pos (by simpa using tables)]
      exact .inr ⟨fun sound => tables (unknownTables_eq_nil.mpr sound.tables), _, rfl⟩
  · rw [if_pos (by simpa using radius)]
    exact .inr ⟨fun sound => radius ((isRadius_iff _).mpr ⟨sound.finite, sound.positive⟩), _, rfl⟩

end StoredConfig

namespace Config

/-- The settings that a text stands for, whatever may be wrong with them. -/
def stored? (text : String) : Option StoredConfig :=
  (Toml.parse? text).bind StoredConfig.ofToml?

inductive Origin (files : Files) (path : String) : Config → Prop where
  | stored {config : Config} {text : String} {stored : StoredConfig} : files path = .ok text →
      stored? text = some stored → stored.Sound → config.Adopts stored → Origin files path config
  | usual : (∀ text stored, files path = .ok text → stored? text = some stored → ¬ stored.Sound) →
      Origin files path (inDir (Path.parent path))

theorem load_origin (files : Files) (path : String) :
    Origin files path (load files path).value := by
  unfold load read
  cases found : files path with
  | error fault =>
      refine .usual fun text stored held => ?_
      rw [found] at held
      cases held
  | ok text =>
      dsimp only
      cases read : (Toml.parse? text).bind StoredConfig.ofToml? with
      | none =>
          refine .usual fun other stored held taken => ?_
          cases found.symm.trans held
          cases read.symm.trans taken
      | some stored =>
          dsimp only
          rcases stored.check_cases path with
            ⟨sound, config, checked, adopts⟩ | ⟨unsound, error, checked⟩
          · rw [checked]
            exact .stored found read sound adopts
          · rw [checked]
            refine .usual fun other stored' held taken => ?_
            cases found.symm.trans held
            cases read.symm.trans taken
            exact unsound

example : (load (fun _ => .ok "max_search_radius = nan") "engine.toml").value = inDir "" := by
  decide +kernel

variable {files : Files} {path : String} {config : Config}

theorem Origin.radius (origin : Origin files path config) :
    config.maxSearchRadius.isFinite = true ∧ 0 < config.maxSearchRadius := by
  cases origin with
  | stored _ _ sound adopts =>
      rw [adopts.settings]
      exact ⟨sound.finite, sound.positive⟩
  | usual =>
      show visibleRange.isFinite = true ∧ 0 < visibleRange
      decide +kernel

end Config

end WorldScripts
