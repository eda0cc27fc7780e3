import WorldScripts.ScriptTable

/-!
What happens in the world and may start a script.
-/

namespace WorldScripts

inductive Trigger where
  | questEnd (quest : UInt32)
  | questStart (quest : UInt32)
  | spell (spell : UInt32)
  /-- A game object was used, by the id of its spawn. -/
  | gameObjectUse (spawn : UInt32)
  /-- A game object of a template was used. -/
  | gameObjectTemplate (template : UInt32)
  | event (event : UInt32)
  | gossip (menu : UInt32)
  | creatureDeath (creature : UInt32)
  | creatureMovement (path : UInt32)
  deriving DecidableEq, Repr

namespace Trigger

def table : Trigger → ScriptTable
  | questEnd _ => .questEnd
  | questStart _ => .questStart
  | spell _ => .spell
  | gameObjectUse _ => .gameObject
  | gameObjectTemplate _ => .gameObjectTemplate
  | event _ => .event
  | gossip _ => .gossip
  | creatureDeath _ => .creatureDeath
  | creatureMovement _ => .creatureMovement

def key : Trigger → UInt32
  | questEnd key | questStart key | spell key | gameObjectUse key | gameObjectTemplate key
  | event key | gossip key | creatureDeath key | creatureMovement key => key

end Trigger

end WorldScripts
