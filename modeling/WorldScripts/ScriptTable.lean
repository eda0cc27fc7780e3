/-!
The nine script tables. Each holds the scripts of one kind of trigger.
-/

namespace WorldScripts

inductive ScriptTable where
  | questEnd
  | questStart
  | spell
  | gameObject
  | gameObjectTemplate
  | event
  | gossip
  | creatureDeath
  | creatureMovement
  deriving DecidableEq, Repr

namespace ScriptTable

def all : List ScriptTable :=
  [.questEnd, .questStart, .spell, .gameObject, .gameObjectTemplate, .event, .gossip,
    .creatureDeath, .creatureMovement]

def name : ScriptTable → String
  | .questEnd => "quest_end_scripts"
  | .questStart => "quest_start_scripts"
  | .spell => "spell_scripts"
  | .gameObject => "gameobject_scripts"
  | .gameObjectTemplate => "gameobject_template_scripts"
  | .event => "event_scripts"
  | .gossip => "gossip_scripts"
  | .creatureDeath => "creature_death_scripts"
  | .creatureMovement => "creature_movement_scripts"

def index : ScriptTable → Nat
  | .questEnd => 0
  | .questStart => 1
  | .spell => 2
  | .gameObject => 3
  | .gameObjectTemplate => 4
  | .event => 5
  | .gossip => 6
  | .creatureDeath => 7
  | .creatureMovement => 8

def ofName? (name : String) : Option ScriptTable :=
  all.find? fun table => table.name == name

theorem mem_all (table : ScriptTable) : table ∈ all := by
  cases table <;> decide

end ScriptTable

instance : ToString ScriptTable := ⟨ScriptTable.name⟩

end WorldScripts
