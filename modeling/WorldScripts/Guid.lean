import WorldScripts.OrderedMap

/-!
Identities of world objects: a kind, the entry of the template, and a counter that tells objects
of one kind and entry apart.
-/

namespace WorldScripts

inductive EntityKind where
  | player
  | creature
  | pet
  | gameObject
  | item
  | corpse
  deriving DecidableEq, Repr

inductive BuddyKind where
  | creature
  | gameObject
  deriving DecidableEq, Repr

namespace EntityKind

def name : EntityKind → String
  | .player => "Player"
  | .creature => "Creature"
  | .pet => "Pet"
  | .gameObject => "GameObject"
  | .item => "Item"
  | .corpse => "Corpse"

def place : EntityKind → Nat
  | .player => 0
  | .creature => 1
  | .pet => 2
  | .gameObject => 3
  | .item => 4
  | .corpse => 5

theorem place_inj {a b : EntityKind} (same : a.place = b.place) : a = b := by
  cases a <;> cases b <;> simp_all [place]

def isUnit : EntityKind → Bool
  | .player | .creature | .pet => true
  | .gameObject | .item | .corpse => false

def isCreature : EntityKind → Bool
  | .creature | .pet => true
  | _ => false

/-- A search for creatures also finds pets. -/
def servesAs (kind : EntityKind) : BuddyKind → Bool
  | .creature => kind.isCreature
  | .gameObject => kind == .gameObject

end EntityKind

structure Guid where
  kind : EntityKind
  entry : UInt32
  counter : UInt32
  deriving DecidableEq, Repr

namespace Guid

def player (counter : UInt32) : Guid := ⟨.player, 0, counter⟩
def creature (entry counter : UInt32) : Guid := ⟨.creature, entry, counter⟩
def gameObject (entry counter : UInt32) : Guid := ⟨.gameObject, entry, counter⟩
def item (entry counter : UInt32) : Guid := ⟨.item, entry, counter⟩

def describe (guid : Guid) : String :=
  if guid.entry = 0 then s!"{guid.kind.name} #{guid.counter}"
  else s!"{guid.kind.name} {guid.entry} #{guid.counter}"

def fieldsText (guid : Guid) : String :=
  "ObjectGuid \x7b kind: " ++ guid.kind.name ++ ", entry: " ++ toString guid.entry ++
    ", counter: " ++ toString guid.counter ++ " \x7d"

end Guid

instance : ToString Guid := ⟨Guid.describe⟩

/-- Guids come in the order of kind, entry and counter. -/
instance : Ranked Guid where
  rank guid :=
    (guid.kind.place * 0x100000000 + guid.entry.toNat) * 0x100000000 + guid.counter.toNat
  rank_inj {a b} same := by
    have entryA := a.entry.toNat_lt
    have entryB := b.entry.toNat_lt
    have counterA := a.counter.toNat_lt
    have counterB := b.counter.toNat_lt
    have kind : a.kind = b.kind := EntityKind.place_inj (by omega)
    have entry : a.entry = b.entry := UInt32.toNat_inj.mp (by omega)
    have counter : a.counter = b.counter := UInt32.toNat_inj.mp (by omega)
    cases a; cases b; simp_all

end WorldScripts
