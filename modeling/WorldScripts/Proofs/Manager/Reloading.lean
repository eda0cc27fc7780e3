import WorldScripts.Proofs.Manager.Loading

/-!
Reloading tables. A table is replaced as a whole or stays as it is, whatever becomes of the others, and
nothing but the tables is touched. So reloading tables whose files have not changed makes no difference.
-/

namespace WorldScripts.Manager

variable (manager : Manager) (files : Files)

def attempt (table : ScriptTable) : Except LoadError (Scripts × LoadReport) :=
  (loadScripts files manager.config manager.texts table).run.value

def renewed (table : ScriptTable) : Scripts :=
  match manager.attempt files table with
  | .ok (scripts, _) => scripts
  | .error _ => manager.store.table table

/-- The manager after a table has been reloaded, which may have come to nothing. -/
def reloaded (table : ScriptTable) : Manager :=
  { manager with store := (manager.store.replace table (manager.renewed files table)).value }

variable {manager files}

theorem renewed_of_ok {table : ScriptTable} {entry : Scripts × LoadReport}
    (loaded : manager.attempt files table = .ok entry) : manager.renewed files table = entry.1 := by
  rw [renewed, loaded]

theorem renewed_of_error {table : ScriptTable} {error : LoadError}
    (failed : manager.attempt files table = .error error) :
    manager.renewed files table = manager.store.table table := by
  rw [renewed, failed]

theorem reloaded_of_same {table : ScriptTable}
    (same : manager.renewed files table = manager.store.table table) :
    manager.reloaded files table = manager := by
  have kept : (manager.store.replace table (manager.store.table table)).value = manager.store := by
    refine congrArg Store.mk (funext fun other => ?_)
    by_cases here : other = table
    · rw [if_pos here, here]
      rfl
    · rw [if_neg here]
  rw [reloaded, same, kept]

variable (manager files)

theorem reload_value (table : ScriptTable) :
    (manager.reload files table).value =
      ((manager.attempt files table).map (·.2), manager.reloaded files table) := by
  cases attempted : manager.attempt files table with
  | ok entry =>
      rw [reloaded, renewed_of_ok attempted]
      rw [attempt] at attempted
      simp only [reload, bind, attempted]
      rfl
  | error error =>
      rw [reloaded_of_same (renewed_of_error attempted)]
      rw [attempt] at attempted
      simp only [reload, bind, attempted]
      rfl

theorem table_reloaded (table other : ScriptTable) :
    (manager.reloaded files table).store.table other =
      if other = table then manager.renewed files table else manager.store.table other :=
  Store.table_replace _ _ _ _

-- Reloading a table makes no difference to what any table is after it has been reloaded.
theorem renewed_reloaded (table other : ScriptTable) :
    (manager.reloaded files table).renewed files other = manager.renewed files other := by
  have attempted : (manager.reloaded files table).attempt files other = manager.attempt files other :=
    rfl
  cases result : manager.attempt files other with
  | ok entry => rw [renewed_of_ok (attempted.trans result), renewed_of_ok result]
  | error error =>
      rw [renewed_of_error (attempted.trans result), table_reloaded]
      by_cases here : other = table
      · rw [if_pos here, here]
      · rw [if_neg here, renewed_of_error result]

theorem reloadTables_cons (table : ScriptTable) (rest : List ScriptTable) :
    (manager.reloadTables files (table :: rest)).value =
      let done := (manager.reload files table).value
      let later := (done.2.reloadTables files rest).value
      ((table, done.1) :: later.1, later.2) :=
  rfl

theorem reloadTables_value (tables : List ScriptTable) :
    let done := (manager.reloadTables files tables).value
    done.1 = tables.map (fun table => (table, (manager.attempt files table).map (·.2))) ∧
      done.2 = { manager with store := done.2.store } ∧
      ∀ table, done.2.store.table table =
        if table ∈ tables then manager.renewed files table else manager.store.table table := by
  induction tables generalizing manager with
  | nil => exact ⟨rfl, rfl, fun table => (if_neg List.not_mem_nil).symm⟩
  | cons first rest ih =>
      obtain ⟨results, frame, tables⟩ := ih (manager.reloaded files first)
      rw [reloadTables_cons, reload_value]
      refine ⟨?_, frame, fun table => ?_⟩
      · exact congrArg ((first, (manager.attempt files first).map (·.2)) :: ·) results
      · show ((manager.reloaded files first).reloadTables files rest).value.2.store.table table = _
        rw [tables, renewed_reloaded, table_reloaded]
        by_cases later : table ∈ rest
        · rw [if_pos later, if_pos (List.mem_cons_of_mem first later)]
        · rw [if_neg later]
          by_cases here : table = first
          · rw [if_pos here, if_pos (List.mem_cons.mpr (.inl here)), here]
          · rw [if_neg here, if_neg fun inside => (List.mem_cons.mp inside).elim here later]

/-- What reloading a table has to come to. -/
structure Reloads (table : ScriptTable) (result : Except LoadError LoadReport) (after : Manager) :
    Prop where
  fails : ∀ error, result = .error error ↔
    ∃ reason, files.Spoilt (manager.config.tablePath table) reason ∧ error = .inTable table reason
  succeeds : ∀ report, result = .ok report ↔
    ∃ rows, files.Supplies (manager.config.tablePath table) rows ∧
      report = (Scripts.checked rows manager.config manager.texts table).2
  kept : ∀ error, result = .error error → after = manager
  renewed : ∀ rows, files.Supplies (manager.config.tablePath table) rows →
    after.store.table table = (Scripts.ofRows rows table manager.config.decodeOptions).value.1
  others : ∀ other, other ≠ table → after.store.table other = manager.store.table other
  /-- The engine, the registry, the texts and the waypoints stay as they are. -/
  frame : after = { manager with store := after.store }
  again : (after.reload files table).value = (result, after)

theorem reload_reloads (table : ScriptTable) :
    let done := (manager.reload files table).value
    manager.Reloads files table done.1 done.2 := by
  rw [reload_value]
  constructor
  · intro error
    rw [← loadScripts_eq_error]
    show (manager.attempt files table).map _ = _ ↔ manager.attempt files table = _
    cases manager.attempt files table <;> simp [Except.map]
  · intro report
    constructor
    · intro succeeded
      cases attempted : manager.attempt files table with
      | error error =>
          rw [attempted] at succeeded
          cases succeeded
      | ok entry =>
          obtain ⟨rows, supplies, rfl⟩ := loadScripts_eq_ok.mp attempted
          rw [attempted] at succeeded
          cases succeeded
          exact ⟨rows, supplies, rfl⟩
    · rintro ⟨rows, supplies, rfl⟩
      rw [attempt, loadScripts_supplied supplies]
      rfl
  · intro error failed
    cases attempted : manager.attempt files table with
    | ok entry =>
        rw [attempted] at failed
        cases failed
    | error reason => exact reloaded_of_same (renewed_of_error attempted)
  · intro rows supplies
    rw [table_reloaded, if_pos rfl, renewed_of_ok (loadScripts_supplied supplies)]
    rfl
  · intro other different
    rw [table_reloaded, if_neg different]
  · rfl
  · rw [reload_value]
    have same : (manager.reloaded files table).renewed files table =
        (manager.reloaded files table).store.table table := by
      rw [renewed_reloaded, table_reloaded, if_pos rfl]
    rw [reloaded_of_same same]
    rfl

theorem reloadTables_loaded {tables : List ScriptTable} {entries : List (Scripts × LoadReport)}
    (held : List.Forall₂ (fun table entry => manager.store.table table = entry.1 ∧
      manager.attempt files table = .ok entry) tables entries) :
    (manager.reloadTables files tables).value =
      (entries.map fun entry => (entry.2.table, .ok entry.2), manager) := by
  induction held with
  | nil => rfl
  | @cons table entry rest others loaded _ ih =>
      obtain ⟨stored, attempted⟩ := loaded
      have one : (manager.reload files table).value = (.ok entry.2, manager) := by
        rw [reload_value, attempted,
          reloaded_of_same ((renewed_of_ok attempted).trans stored.symm)]
        rfl
      rw [reloadTables_cons, one]
      simp only [ih, List.map_cons, table_of_loadScripts attempted]

/-- Reloading a table fails exactly when there is a file that rows cannot be had from, and then nothing
changes; otherwise the table is made of the rows supplied, and nothing else changes. Reloading all tables
does to each what reloading it alone does. After loading from the same files it does nothing, and reports
what was reported then. -/
theorem reload_atomic :
    (∀ table,
      let done := (manager.reload files table).value
      manager.Reloads files table done.1 done.2) ∧
      (let done := (manager.reloadAll files).value
       done.1 = ScriptTable.all.map (fun table => (table, (manager.reload files table).value.1)) ∧
         done.2 = { manager with store := done.2.store } ∧
         ∀ table, done.2.store.table table =
           (manager.reload files table).value.2.store.table table) ∧
      ∀ config reports, (load files config).run.value = .ok (manager, reports) →
        reports.map LoadReport.table = ScriptTable.all ∧
          ∀ engine registry,
            let later : Manager := { manager with engine, registry }
            (later.reloadAll files).value =
              (reports.map fun report => (report.table, .ok report), later) := by
  refine ⟨manager.reload_reloads files, ?_, ?_⟩
  · obtain ⟨results, frame, tables⟩ := manager.reloadTables_value files ScriptTable.all
    refine ⟨?_, frame, fun table => ?_⟩
    · simp only [reload_value]
      exact results
    · rw [reload_value, table_reloaded, if_pos rfl]
      exact (tables table).trans (if_pos table.mem_all)
  · intro config reports loaded
    obtain ⟨entries, rfl, held⟩ := load_tables loaded
    constructor
    · have named : List.Forall₂ Eq ScriptTable.all
          ((entries.map (·.2)).map LoadReport.table) := by
        rw [List.map_map, List.forall₂_map_right_iff]
        exact held.imp fun table entry same => (table_of_loadScripts same.2).symm
      rw [List.forall₂_eq_eq_eq] at named
      exact named.symm
    · intro engine registry later
      rw [List.map_map]
      exact later.reloadTables_loaded files held

example : ((load (fun _ => .error .noSuchFile) {}).run.value.map fun loaded =>
    loaded.2.map LoadReport.table) = .ok ScriptTable.all := by
  rfl

end WorldScripts.Manager
