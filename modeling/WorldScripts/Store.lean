import WorldScripts.Scripts

/-!
The store of the nine tables. A table that was taken from the store is a value of its own and does
not change when the store replaces it.
-/

namespace WorldScripts

structure Store where
  tables : ScriptTable → Scripts := fun _ => {}

namespace Store

instance : Inhabited Store := ⟨{}⟩

def table (store : Store) (table : ScriptTable) : Scripts :=
  store.tables table

def lookup (store : Store) (table : ScriptTable) (key : UInt32) : List Instruction :=
  (store.table table).lookup key

def replace (store : Store) (table : ScriptTable) (scripts : Scripts) : Logged Store :=
  ⟨⟨fun other => if other = table then scripts else store.tables other⟩,
    [.info s!"{scripts.keyCount} script keys now active in '{table}'"]⟩

theorem table_replace (store : Store) (table other : ScriptTable) (scripts : Scripts) :
    (store.replace table scripts).value.table other =
      if other = table then scripts else store.table other :=
  rfl

def counts (store : Store) (table : ScriptTable) : Nat × Nat :=
  ((store.table table).keyCount, (store.table table).commandCount)

end Store

end WorldScripts
