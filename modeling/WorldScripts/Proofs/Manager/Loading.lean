import Mathlib.Data.List.Forall2
import WorldScripts.Manager

/-!
What is loaded from files. A table is made of the rows that its file supplies, which are none if there is
no file; if there is one that does not hold rows, nothing is made of it.
-/

namespace WorldScripts

namespace Loading

variable {α β : Type}

theorem value_bind (first : Loading α) (next : α → Loading β) :
    (first >>= next).run.value =
      match first.run.value with
      | .ok loaded => (next loaded).run.value
      | .error error => .error error := by
  obtain ⟨error | loaded, log⟩ := first
  · rfl
  · rfl

theorem bind_eq_ok {first : Loading α} {next : α → Loading β} {result : β} :
    (first >>= next).run.value = .ok result ↔
      ∃ loaded, first.run.value = .ok loaded ∧ (next loaded).run.value = .ok result := by
  rw [value_bind]
  cases first.run.value with
  | error error => simp
  | ok loaded => simp

theorem pure_eq_ok {loaded result : α} :
    (pure loaded : Loading α).run.value = .ok result ↔ loaded = result := by
  show Except.ok loaded = Except.ok result ↔ _
  rw [Except.ok.injEq]

theorem keep_eq_ok {logged : Logged α} {result : α} :
    (keep logged).run.value = .ok result ↔ logged.value = result := by
  show Except.ok logged.value = Except.ok result ↔ _
  rw [Except.ok.injEq]

theorem adapt_eq_ok {first : Loading α} {wrap : LoadError → LoadError} {result : α} :
    (ExceptT.adapt wrap first : Loading α).run.value = .ok result ↔ first.run.value = .ok result := by
  obtain ⟨error | loaded, log⟩ := first
  · constructor <;> rintro ⟨⟩
  · rfl

theorem mapM_eq_ok {load : α → Loading β} {items : List α} {results : List β} :
    (items.mapM load).run.value = .ok results ↔
      List.Forall₂ (fun item result => (load item).run.value = .ok result) items results := by
  induction items generalizing results with
  | nil =>
      rw [List.mapM_nil, List.forall₂_nil_left_iff, pure_eq_ok, eq_comm]
  | cons item rest ih =>
      rw [List.mapM_cons, List.forall₂_cons_left_iff]
      simp only [bind_eq_ok, pure_eq_ok, ih]
      constructor
      · rintro ⟨first, loaded, others, later, rfl⟩
        exact ⟨first, others, loaded, later, rfl⟩
      · rintro ⟨first, others, loaded, later, rfl⟩
        exact ⟨first, loaded, others, later, rfl⟩

end Loading

namespace Files

variable {files : Files} {path : String}

/-- The rows at a path, none if there is nothing at it. -/
inductive Supplies (files : Files) (path : String) : List Row → Prop where
  | missing : files.present path = false → Supplies files path []
  | held {text : String} {rows : List Row} : files path = .ok text → readRows? text = some rows →
      Supplies files path rows

/-- There is something at the path, but no rows can be had from it. -/
inductive Spoilt (files : Files) (path : String) : LoadError → Prop where
  | unreadable {fault : ReadFault} : files.present path = true → files path = .error fault →
      Spoilt files path (.unreadable .rows path fault)
  | malformed {text : String} : files path = .ok text → readRows? text = none →
      Spoilt files path (.malformed .rows path)

theorem present_of_ok {text : String} (read : files path = .ok text) : files.present path = true := by
  unfold present
  rw [read]

theorem supplies_or_spoilt (files : Files) (path : String) :
    (∃ rows, files.Supplies path rows) ∨ ∃ reason, files.Spoilt path reason := by
  cases found : files path with
  | error fault =>
      cases there : files.present path with
      | false => exact .inl ⟨[], .missing there⟩
      | true => exact .inr ⟨_, .unreadable there found⟩
  | ok text =>
      cases read : readRows? text with
      | none => exact .inr ⟨_, .malformed found read⟩
      | some rows => exact .inl ⟨rows, .held found read⟩

end Files

/-- The table made of some rows, and the report on it and on its texts. -/
def Scripts.checked (rows : List Row) (config : Config) (texts : Texts) (table : ScriptTable) :
    Scripts × LoadReport :=
  let built := (Scripts.ofRows rows table config.decodeOptions).value
  (built.1, { built.2 with missingTexts := (built.1.checkTexts table texts).value })

section

variable {files : Files} {config : Config} {texts : Texts} {table : ScriptTable}

theorem value_loadScripts (files : Files) (config : Config) (texts : Texts) (table : ScriptTable) :
    let path := config.tablePath table
    (loadScripts files config texts table).run.value =
      (if files.present path then files.rows path table else .ok []).map fun rows =>
        Scripts.checked rows config texts table := by
  intro path
  unfold loadScripts
  by_cases there : files.present path = true
  · rw [if_pos there, if_pos there, loadTable]
    cases files.rows path table <;> rfl
  · rw [if_neg there, if_neg there]
    rfl

theorem loadScripts_supplied {rows : List Row}
    (supplies : files.Supplies (config.tablePath table) rows) :
    (loadScripts files config texts table).run.value =
      .ok (Scripts.checked rows config texts table) := by
  rw [value_loadScripts]
  cases supplies with
  | missing absent =>
      rw [absent]
      rfl
  | held found read =>
      simp only [Files.present_of_ok found, Files.rows, Files.readAs, found, read]
      rfl

theorem loadScripts_spoilt {reason : LoadError}
    (spoilt : files.Spoilt (config.tablePath table) reason) :
    (loadScripts files config texts table).run.value = .error (.inTable table reason) := by
  rw [value_loadScripts]
  cases spoilt with
  | unreadable there found =>
      simp only [there, Files.rows, Files.readAs, found]
      rfl
  | malformed found read =>
      simp only [Files.present_of_ok found, Files.rows, Files.readAs, found, read]
      rfl

theorem loadScripts_eq_ok {entry : Scripts × LoadReport} :
    (loadScripts files config texts table).run.value = .ok entry ↔
      ∃ rows, files.Supplies (config.tablePath table) rows ∧
        entry = Scripts.checked rows config texts table := by
  constructor
  · intro loaded
    rcases files.supplies_or_spoilt (config.tablePath table) with ⟨rows, supplies⟩ | ⟨reason, spoilt⟩
    · rw [loadScripts_supplied supplies] at loaded
      exact ⟨rows, supplies, (Except.ok.inj loaded).symm⟩
    · rw [loadScripts_spoilt spoilt] at loaded
      cases loaded
  · rintro ⟨rows, supplies, rfl⟩
    exact loadScripts_supplied supplies

theorem loadScripts_eq_error {error : LoadError} :
    (loadScripts files config texts table).run.value = .error error ↔
      ∃ reason, files.Spoilt (config.tablePath table) reason ∧ error = .inTable table reason := by
  constructor
  · intro failed
    rcases files.supplies_or_spoilt (config.tablePath table) with ⟨rows, supplies⟩ | ⟨reason, spoilt⟩
    · rw [loadScripts_supplied supplies] at failed
      cases failed
    · rw [loadScripts_spoilt spoilt] at failed
      exact ⟨reason, spoilt, (Except.error.inj failed).symm⟩
  · rintro ⟨reason, spoilt, rfl⟩
    exact loadScripts_spoilt spoilt

theorem table_of_loadScripts {entry : Scripts × LoadReport}
    (loaded : (loadScripts files config texts table).run.value = .ok entry) :
    entry.2.table = table := by
  obtain ⟨rows, _, rfl⟩ := loadScripts_eq_ok.mp loaded
  rfl

theorem loadData_tables {data : LoadedData}
    (loaded : (loadData files config).run.value = .ok data) :
    List.Forall₂ (fun table entry =>
        (loadScripts files config data.texts table).run.value = .ok entry)
      ScriptTable.all data.tables := by
  simp only [loadData, Loading.bind_eq_ok, Loading.pure_eq_ok] at loaded
  obtain ⟨texts, _, names, _, waypoints, _, tables, read, rfl⟩ := loaded
  exact Loading.mapM_eq_ok.mp read

end

namespace Manager

section

variable {tables : List ScriptTable} {entries : List (Scripts × LoadReport)}
variable {loads : ScriptTable → Scripts × LoadReport → Prop}

theorem table_fill_other (loaded : List.Forall₂ loads tables entries)
    (told : ∀ table entry, loads table entry → entry.2.table = table) {table : ScriptTable}
    (outside : table ∉ tables) (store : Store) :
    (fill store entries).value.table table = store.table table := by
  induction loaded generalizing store with
  | nil => rfl
  | @cons first entry rest others load _ ih =>
      rw [List.mem_cons, not_or] at outside
      show (fill (store.replace entry.2.table entry.1).value others).value.table table = _
      rw [ih outside.2, Store.table_replace, told first entry load, if_neg outside.1]

theorem table_fill (loaded : List.Forall₂ loads tables entries)
    (told : ∀ table entry, loads table entry → entry.2.table = table) (different : tables.Nodup)
    (store : Store) :
    List.Forall₂ (fun table entry =>
        (fill store entries).value.table table = entry.1 ∧ loads table entry)
      tables entries := by
  induction loaded generalizing store with
  | nil => exact .nil
  | @cons first entry rest others load later ih =>
      obtain ⟨outside, different⟩ := List.nodup_cons.mp different
      refine .cons ⟨?_, load⟩ (ih different _)
      show (fill (store.replace entry.2.table entry.1).value others).value.table first = _
      rw [table_fill_other later told outside, Store.table_replace, told first entry load,
        if_pos rfl]

end

section

variable {files : Files} {config : Config} {manager : Manager} {reports : List LoadReport}

theorem config_of_load (loaded : (load files config).run.value = .ok (manager, reports)) :
    manager.config = config := by
  simp only [load, Loading.bind_eq_ok, Loading.pure_eq_ok] at loaded
  obtain ⟨data, _, registry, _, store, _, _, _, same⟩ := loaded
  cases same
  rfl

-- A manager that has been loaded holds, of each table, what loading the table again comes to.
theorem load_tables (loaded : (load files config).run.value = .ok (manager, reports)) :
    ∃ entries : List (Scripts × LoadReport), reports = entries.map (·.2) ∧
      List.Forall₂ (fun table entry => manager.store.table table = entry.1 ∧
          (loadScripts files manager.config manager.texts table).run.value = .ok entry)
        ScriptTable.all entries := by
  simp only [load, Loading.bind_eq_ok, Loading.adapt_eq_ok, Loading.keep_eq_ok,
    Loading.pure_eq_ok] at loaded
  obtain ⟨data, read, registry, _, store, rfl, _, _, same⟩ := loaded
  cases same
  have different : ScriptTable.all.Nodup := by decide
  exact ⟨data.tables, rfl, table_fill (loadData_tables read)
    (fun table entry => table_of_loadScripts) different {}⟩

end

end Manager

end WorldScripts
