import Mathlib.Data.Finset.Card
import WorldScripts.OrderedMap

/-!
Grouping by a key. What stands under a key is what has that key, in the order given, and there is nothing
else: the groups together are the values that were given, each as often as it was given.
-/

namespace WorldScripts

namespace Entries

variable {κ α : Type} [Ranked κ] {key : κ} {entries others : List (κ × α)}

theorem find?_above (above : ∀ entry ∈ entries, rank key < rank entry.1) :
    find? key entries = none :=
  find?_eq_none fun entry member => Nat.ne_of_lt (above entry member)

theorem isSome_find? : (find? key entries).isSome = true ↔ key ∈ entries.map (·.1) := by
  induction entries with
  | nil => simp [find?]
  | cons entry rest ih =>
      obtain ⟨head, value⟩ := entry
      rw [List.map_cons, List.mem_cons, ← ih]
      by_cases same : key = head
      · simp [find?, same]
      · have different : rank key ≠ rank head := fun equal => same (rank_inj equal)
        simp [find?, same, different]

theorem find?_eq_some (ordered : Sorted entries) {value : α} :
    find? key entries = some value ↔ (key, value) ∈ entries := by
  induction entries with
  | nil => simp [find?]
  | cons entry rest ih =>
      obtain ⟨head, first⟩ := entry
      obtain ⟨above, later⟩ := List.pairwise_cons.mp ordered
      rw [find?, List.mem_cons, Prod.mk.injEq]
      by_cases same : rank key = rank head
      · obtain rfl : key = head := rank_inj same
        have past : (key, value) ∉ rest := fun member =>
          Nat.lt_irrefl _ (above (key, value) member)
        rw [if_pos rfl, Option.some.injEq, eq_comm]
        simp [past]
      · have different : key ≠ head := fun equal => same (equal ▸ rfl)
        rw [if_neg same, ih later]
        simp [different]

theorem find?_eq_least (ordered : Sorted entries) {suits : κ × α → Bool} {found : κ × α} :
    entries.find? suits = some found ↔
      found ∈ entries ∧ suits found = true ∧
        ∀ other ∈ entries, suits other = true → rank found.1 ≤ rank other.1 := by
  induction entries with
  | nil => simp
  | cons head rest ih =>
      obtain ⟨above, later⟩ := List.pairwise_cons.mp ordered
      by_cases first : suits head = true
      · rw [List.find?_cons_of_pos first]
        constructor
        · rintro ⟨⟩
          refine ⟨List.mem_cons_self, first, ?_⟩
          intro other member _
          rcases List.mem_cons.mp member with rfl | member
          · exact Nat.le_refl _
          · exact Nat.le_of_lt (above other member)
        · rintro ⟨member, _, least⟩
          rcases List.mem_cons.mp member with rfl | member
          · rfl
          · exact absurd (above found member) (Nat.not_lt.mpr (least head List.mem_cons_self first))
      · rw [List.find?_cons_of_neg first, ih later]
        constructor
        · rintro ⟨member, suited, least⟩
          refine ⟨List.mem_cons_of_mem head member, suited, ?_⟩
          intro other among suitable
          rcases List.mem_cons.mp among with rfl | among
          · exact absurd suitable first
          · exact least other among suitable
        · rintro ⟨member, suited, least⟩
          rcases List.mem_cons.mp member with rfl | member
          · exact absurd suited first
          · exact ⟨member, suited, fun other among => least other (List.mem_cons_of_mem head among)⟩

theorem eq_of_find? (ordered : Sorted entries) (ordered' : Sorted others)
    (same : ∀ key, find? key entries = find? key others) : entries = others := by
  induction entries generalizing others with
  | nil =>
      cases others with
      | nil => rfl
      | cons entry rest => simpa [find?] using same entry.1
  | cons entry rest ih =>
      cases others with
      | nil => simpa [find?] using same entry.1
      | cons entry' rest' =>
          obtain ⟨head, value⟩ := entry
          obtain ⟨head', value'⟩ := entry'
          obtain ⟨above, later⟩ := List.pairwise_cons.mp ordered
          obtain ⟨above', later'⟩ := List.pairwise_cons.mp ordered'
          have atHead := same head
          have atHead' := same head'
          simp only [find?, ↓reduceIte] at atHead atHead'
          -- The lesser of two first keys would be found on one side only.
          have level : rank head = rank head' := by
            rcases Nat.lt_trichotomy (rank head) (rank head') with less | level | greater
            · rw [if_neg (Nat.ne_of_lt less), find?_above fun entry member =>
                Nat.lt_trans less (above' entry member)] at atHead
              cases atHead
            · exact level
            · rw [if_neg (Nat.ne_of_lt greater), find?_above fun entry member =>
                Nat.lt_trans greater (above entry member)] at atHead'
              cases atHead'
          obtain rfl : head = head' := rank_inj level
          obtain rfl : value = value' := by simpa using atHead
          have tails : rest = rest' := by
            refine ih later later' fun key => ?_
            by_cases here : rank key = rank head
            · obtain rfl := rank_inj here
              rw [find?_above above, find?_above above']
            · simpa [find?, here] using same key
          rw [tails]

theorem flatten_insert {entries : List (κ × List α)} (ordered : Sorted entries) (value : α) :
    ((insert key (value :: (find? key entries).getD []) entries).map (·.2)).flatten.Perm
      (value :: (entries.map (·.2)).flatten) := by
  induction entries with
  | nil => simp [insert, find?]
  | cons entry rest ih =>
      obtain ⟨head, held⟩ := entry
      obtain ⟨above, ordered⟩ := List.pairwise_cons.mp ordered
      rcases Nat.lt_trichotomy (rank key) (rank head) with less | level | greater
      · have absent : find? key rest = none :=
          find?_above fun entry member => Nat.lt_trans less (above entry member)
        have different : rank key ≠ rank head := Nat.ne_of_lt less
        simp [insert, find?, less, different, absent]
      · simp [insert, find?, level]
      · have different : rank key ≠ rank head := Nat.ne_of_gt greater
        have notLess : ¬ rank key < rank head := Nat.not_lt.mpr (Nat.le_of_lt greater)
        simp only [insert, find?, notLess, different, ↓reduceIte, List.map_cons, List.flatten_cons]
        exact ((ih ordered).append_left held).trans List.perm_middle

theorem find?_map {β : Type} (f : α → β) (entries : List (κ × α)) (key : κ) :
    find? key (entries.map fun entry => (entry.1, f entry.2)) = (find? key entries).map f := by
  induction entries with
  | nil => rfl
  | cons entry rest ih =>
      obtain ⟨head, value⟩ := entry
      by_cases here : rank key = rank head <;> simp [find?, here, ih]

end Entries

namespace OrderedMap

variable {κ α : Type} [Ranked κ]

theorem find?_mapValues {β : Type} (map : OrderedMap κ α) (f : α → β) (key : κ) :
    (map.mapValues f).find? key = (map.find? key).map f :=
  Entries.find?_map f map.entries key

theorem ext_find? {map other : OrderedMap κ α} (same : ∀ key, map.find? key = other.find? key) :
    map = other := by
  obtain ⟨entries, sorted⟩ := map
  obtain ⟨others, sorted'⟩ := other
  obtain rfl := Entries.eq_of_find? sorted sorted' same
  rfl

theorem find?_insert_ite [DecidableEq κ] (map : OrderedMap κ α) (key wanted : κ) (value : α) :
    (map.insert key value).find? wanted = if wanted = key then some value else map.find? wanted := by
  have same : rank wanted = rank key ↔ wanted = key := ⟨rank_inj, congrArg rank⟩
  simp only [find?_insert, same]

theorem contains_iff_mem_keys (map : OrderedMap κ α) (key : κ) :
    map.contains key = true ↔ key ∈ map.keys :=
  Entries.isSome_find?

theorem nodup_keys (map : OrderedMap κ α) : map.keys.Nodup := by
  have ascending := (Entries.sorted_iff_keys map.entries).mp map.sorted
  refine ascending.imp ?_
  rintro a _ less rfl
  exact Nat.lt_irrefl _ less

variable [DecidableEq κ] (key : α → κ) (values : List α)

theorem find?_group (wanted : κ) (found : List α) :
    (group key values).find? wanted = some found ↔
      found ≠ [] ∧ found = values.filter fun value => key value = wanted := by
  -- No group is empty, so that a key is found where its group has something in it.
  have filled : (group key values).find? wanted ≠ some [] := by
    induction values with
    | nil => simp [group, empty, find?, Entries.find?]
    | cons value rest ih =>
        rw [group, find?_insert]
        split
        · simp
        · exact ih
  have shown := getD_find?_group key values wanted
  rw [← shown]
  cases held : (group key values).find? wanted with
  | none => simp
  | some group =>
      rw [held] at filled
      constructor
      · rintro ⟨⟩
        exact ⟨fun none => filled (congrArg some none), rfl⟩
      · rintro ⟨_, rfl⟩
        rfl

theorem contains_group (wanted : κ) :
    (group key values).contains wanted = true ↔ ∃ value ∈ values, key value = wanted := by
  rw [contains, Option.isSome_iff_exists]
  constructor
  · rintro ⟨found, held⟩
    obtain ⟨filled, rfl⟩ := (find?_group key values wanted found).mp held
    obtain ⟨value, member⟩ := List.exists_mem_of_ne_nil _ filled
    obtain ⟨inside, same⟩ := List.mem_filter.mp member
    exact ⟨value, inside, of_decide_eq_true same⟩
  · rintro ⟨value, inside, same⟩
    refine ⟨_, (find?_group key values wanted _).mpr ⟨?_, rfl⟩⟩
    exact List.ne_nil_of_mem (List.mem_filter.mpr ⟨inside, decide_eq_true same⟩)

-- The groups depend on the order of the values with one key only.
theorem group_congr {others : List α}
    (same : ∀ wanted, (others.filter fun value => key value = wanted) =
      values.filter fun value => key value = wanted) :
    group key others = group key values := by
  refine ext_find? fun wanted => Option.ext fun found => ?_
  rw [find?_group, find?_group, same]

theorem group_concat (value : α) :
    group key (values ++ [value]) =
      (group key values).insert (key value)
        (((group key values).find? (key value)).getD [] ++ [value]) := by
  refine ext_find? fun wanted => Option.ext fun found => ?_
  rw [find?_group, find?_insert_ite, getD_find?_group, List.filter_append]
  by_cases here : key value = wanted
  · subst wanted
    rw [if_pos rfl, Option.some_inj]
    constructor
    · rintro ⟨_, rfl⟩
      simp
    · rintro rfl
      simp
  · rw [if_neg (Ne.symm here), find?_group]
    simp [here]

omit [DecidableEq κ] in
theorem flatten_group : (group key values).values.flatten.Perm values := by
  induction values with
  | nil => exact List.Perm.refl []
  | cons value rest ih =>
      exact (Entries.flatten_insert (group key rest).sorted value).trans (ih.cons value)

theorem size_group : (group key values).size = (values.map key).toFinset.card := by
  have members : (group key values).keys.toFinset = (values.map key).toFinset := by
    ext wanted
    rw [List.mem_toFinset, ← contains_iff_mem_keys, contains_group, List.mem_toFinset, List.mem_map]
  rw [← members, List.toFinset_card_of_nodup (nodup_keys _)]
  rw [size, keys, List.length_map]

end OrderedMap

end WorldScripts
