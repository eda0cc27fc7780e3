/-!
Maps kept in key order. A key is ordered by its rank, a number no other key has, and the entries
form a list whose ranks grow strictly; so a map is determined by its bindings, in whatever order
they were made.
-/

namespace WorldScripts

/-- Keys that an injective number puts in order. -/
class Ranked (κ : Type) where
  rank : κ → Nat
  rank_inj : ∀ {a b : κ}, rank a = rank b → a = b

export Ranked (rank rank_inj)

instance : Ranked UInt32 where
  rank := UInt32.toNat
  rank_inj same := UInt32.toNat_inj.mp same

/-- Signed numbers come in their usual order, the least one first. -/
instance : Ranked Int32 where
  rank n := (n.toInt + 0x80000000).toNat
  rank_inj {a b} same := by
    have lowA := Int32.le_toInt a
    have lowB := Int32.le_toInt b
    apply Int32.toInt_inj.mp
    omega

namespace Entries

variable {κ α : Type} [Ranked κ]

def Sorted (entries : List (κ × α)) : Prop :=
  entries.Pairwise fun a b => rank a.1 < rank b.1

def find? (key : κ) : List (κ × α) → Option α
  | [] => none
  | (k, v) :: rest => if rank key = rank k then some v else find? key rest

def insert (key : κ) (value : α) : List (κ × α) → List (κ × α)
  | [] => [(key, value)]
  | (k, v) :: rest =>
      if rank key < rank k then (key, value) :: (k, v) :: rest
      else if rank key = rank k then (key, value) :: rest
      else (k, v) :: insert key value rest

def erase (key : κ) : List (κ × α) → List (κ × α)
  | [] => []
  | (k, v) :: rest => if rank key = rank k then rest else (k, v) :: erase key rest

def modify (key : κ) (f : α → α) : List (κ × α) → List (κ × α)
  | [] => []
  | (k, v) :: rest => if rank key = rank k then (k, f v) :: rest else (k, v) :: modify key f rest

theorem key_mem_insert {key k : κ} {value : α} {entries : List (κ × α)}
    (found : k ∈ (insert key value entries).map (·.1)) : k = key ∨ k ∈ entries.map (·.1) := by
  induction entries with
  | nil => simpa [insert] using found
  | cons entry rest ih =>
      obtain ⟨head, old⟩ := entry
      simp only [insert] at found
      split at found
      · simpa using found
      · split at found
        · simp only [List.map_cons, List.mem_cons] at found ⊢
          exact found.imp_right Or.inr
        · simp only [List.map_cons, List.mem_cons] at found ⊢
          rcases found with same | later
          · exact Or.inr (Or.inl same)
          · exact (ih later).imp_right Or.inr

theorem sorted_insert (key : κ) (value : α) {entries : List (κ × α)} (ordered : Sorted entries) :
    Sorted (insert key value entries) := by
  induction entries with
  | nil => simp [insert, Sorted]
  | cons entry rest ih =>
      obtain ⟨head, old⟩ := entry
      obtain ⟨above, ordered⟩ := List.pairwise_cons.mp ordered
      simp only [insert]
      split
      · rename_i less
        refine List.pairwise_cons.mpr ⟨?_, List.pairwise_cons.mpr ⟨above, ordered⟩⟩
        intro other found
        rcases List.mem_cons.mp found with same | later
        · subst same; exact less
        · exact Nat.lt_trans less (above other later)
      · split
        · rename_i same
          exact List.pairwise_cons.mpr ⟨fun other found => same ▸ above other found, ordered⟩
        · rename_i notLess notSame
          refine List.pairwise_cons.mpr ⟨?_, ih ordered⟩
          intro other found
          rcases key_mem_insert (List.mem_map_of_mem found) with same | old
          · show rank head < rank other.1
            rw [same]; omega
          · obtain ⟨twin, member, sameKey⟩ := List.mem_map.mp old
            simpa [sameKey] using above twin member

theorem erase_sublist (key : κ) (entries : List (κ × α)) : (erase key entries).Sublist entries := by
  induction entries with
  | nil => exact List.Sublist.refl _
  | cons entry rest ih =>
      simp only [erase]
      split
      · exact List.sublist_cons_self _ _
      · exact ih.cons_cons _

theorem sorted_erase (key : κ) {entries : List (κ × α)} (ordered : Sorted entries) :
    Sorted (erase key entries) :=
  ordered.sublist (erase_sublist key entries)

theorem keys_modify (key : κ) (f : α → α) (entries : List (κ × α)) :
    (modify key f entries).map (·.1) = entries.map (·.1) := by
  induction entries with
  | nil => rfl
  | cons entry rest ih =>
      simp only [modify]
      split
      · rfl
      · simp [ih]

theorem sorted_iff_keys (entries : List (κ × α)) :
    Sorted entries ↔ (entries.map (·.1)).Pairwise fun a b => rank a < rank b := by
  simp [Sorted, List.pairwise_map]

theorem sorted_modify (key : κ) (f : α → α) {entries : List (κ × α)} (ordered : Sorted entries) :
    Sorted (modify key f entries) := by
  rw [sorted_iff_keys, keys_modify, ← sorted_iff_keys]
  exact ordered

theorem sorted_map {β : Type} (f : α → β) {entries : List (κ × α)} (ordered : Sorted entries) :
    Sorted (entries.map fun entry => (entry.1, f entry.2)) := by
  rw [sorted_iff_keys] at ordered ⊢
  simpa [List.map_map, Function.comp_def] using ordered

theorem find?_insert (key wanted : κ) (value : α) (entries : List (κ × α)) :
    find? wanted (insert key value entries) =
      if rank wanted = rank key then some value else find? wanted entries := by
  induction entries with
  | nil => simp [insert, find?]
  | cons entry rest ih =>
      obtain ⟨head, old⟩ := entry
      simp only [insert]
      split
      · simp [find?]
      · split
        · rename_i same
          simp only [find?]
          split <;> simp_all
        · simp only [find?, ih]
          split
          · split
            · omega
            · rfl
          · rfl

theorem find?_modify (key wanted : κ) (f : α → α) (entries : List (κ × α)) :
    find? wanted (modify key f entries) =
      if rank wanted = rank key then (find? wanted entries).map f else find? wanted entries := by
  induction entries with
  | nil => simp [modify, find?]
  | cons entry rest ih =>
      obtain ⟨head, old⟩ := entry
      simp only [modify]
      split
      · rename_i same
        simp only [find?, ← same]
        split <;> rfl
      · rename_i different
        simp only [find?, ih]
        split
        · rw [if_neg (by omega)]
        · rfl

theorem find?_eq_none {key : κ} {entries : List (κ × α)}
    (others : ∀ entry ∈ entries, rank key ≠ rank entry.1) : find? key entries = none := by
  induction entries with
  | nil => rfl
  | cons entry rest ih =>
      rw [find?, if_neg (others entry List.mem_cons_self)]
      exact ih fun other member => others other (List.mem_cons_of_mem _ member)

theorem find?_erase (key wanted : κ) {entries : List (κ × α)} (ordered : Sorted entries) :
    find? wanted (erase key entries) =
      if rank wanted = rank key then none else find? wanted entries := by
  induction entries with
  | nil => simp [erase, find?]
  | cons entry rest ih =>
      obtain ⟨head, old⟩ := entry
      obtain ⟨above, ordered⟩ := List.pairwise_cons.mp ordered
      simp only [erase]
      split
      · rename_i same
        simp only [find?, ← same]
        split
        · -- The key that was erased is below all those that follow.
          rename_i found
          refine find?_eq_none fun other member => ?_
          have less : rank head < rank other.1 := above other member
          omega
        · rfl
      · rename_i different
        simp only [find?, ih ordered]
        split
        · split
          · omega
          · rfl
        · rfl

end Entries

/-- A map whose entries are listed in the order of their keys. -/
structure OrderedMap (κ α : Type) [Ranked κ] where
  entries : List (κ × α)
  sorted : Entries.Sorted entries

namespace OrderedMap

variable {κ α : Type} [Ranked κ]

def empty : OrderedMap κ α :=
  ⟨[], List.Pairwise.nil⟩

instance : Inhabited (OrderedMap κ α) := ⟨empty⟩

instance [DecidableEq κ] [DecidableEq α] : DecidableEq (OrderedMap κ α) := fun a b =>
  if same : a.entries = b.entries then
    .isTrue (by cases a; cases b; simp_all)
  else .isFalse fun equal => same (equal ▸ rfl)

def find? (map : OrderedMap κ α) (key : κ) : Option α :=
  Entries.find? key map.entries

def contains (map : OrderedMap κ α) (key : κ) : Bool :=
  (map.find? key).isSome

def insert (map : OrderedMap κ α) (key : κ) (value : α) : OrderedMap κ α :=
  ⟨Entries.insert key value map.entries, Entries.sorted_insert key value map.sorted⟩

def erase (map : OrderedMap κ α) (key : κ) : OrderedMap κ α :=
  ⟨Entries.erase key map.entries, Entries.sorted_erase key map.sorted⟩

def modify (map : OrderedMap κ α) (key : κ) (f : α → α) : OrderedMap κ α :=
  ⟨Entries.modify key f map.entries, Entries.sorted_modify key f map.sorted⟩

def mapValues {β : Type} (map : OrderedMap κ α) (f : α → β) : OrderedMap κ β :=
  ⟨map.entries.map fun entry => (entry.1, f entry.2), Entries.sorted_map f map.sorted⟩

/-- The values under each key, in the order given. -/
def group (key : α → κ) : List α → OrderedMap κ (List α)
  | [] => empty
  | value :: rest =>
      let later := group key rest
      later.insert (key value) (value :: (later.find? (key value)).getD [])

def keys (map : OrderedMap κ α) : List κ :=
  map.entries.map (·.1)

def values (map : OrderedMap κ α) : List α :=
  map.entries.map (·.2)

def size (map : OrderedMap κ α) : Nat :=
  map.entries.length

theorem find?_insert (map : OrderedMap κ α) (key wanted : κ) (value : α) :
    (map.insert key value).find? wanted =
      if rank wanted = rank key then some value else map.find? wanted :=
  Entries.find?_insert key wanted value map.entries

theorem find?_modify (map : OrderedMap κ α) (key wanted : κ) (f : α → α) :
    (map.modify key f).find? wanted =
      if rank wanted = rank key then (map.find? wanted).map f else map.find? wanted :=
  Entries.find?_modify key wanted f map.entries

theorem find?_erase (map : OrderedMap κ α) (key wanted : κ) :
    (map.erase key).find? wanted =
      if rank wanted = rank key then none else map.find? wanted :=
  Entries.find?_erase key wanted map.sorted

theorem getD_find?_group [DecidableEq κ] (key : α → κ) (values : List α) (wanted : κ) :
    ((group key values).find? wanted).getD [] = values.filter fun value => key value = wanted := by
  induction values with
  | nil => rfl
  | cons value rest ih =>
      rw [group, find?_insert]
      by_cases same : key value = wanted
      · subst wanted
        simp [ih]
      · rw [if_neg fun equal => same (rank_inj equal.symm), ih, List.filter_cons_of_neg (by simpa)]

end OrderedMap

end WorldScripts
