import WorldScripts.Proofs.Scripts.Grouping
import WorldScripts.Texts

/-!
What a collection of texts holds: under each id the text of the first usable row with that id, and
nothing else. Ids are asked for in ascending order, each of them once.
-/

namespace WorldScripts

def TextRow.text? (row : TextRow) : Option TextEntry :=
  match TextRange.ofId? row.entry, ChatType.ofNumber? row.chatType.toUInt32 with
  | some _, some chat => some ⟨row.content, row.sound, chat, row.language, row.emote⟩
  | _, _ => none

namespace Texts

variable (texts : Texts) (id : Int32)

theorem contains_eq : texts.contains id = (texts.find? id).isSome := rfl

-- A row is left out if there is no text in it, or one with its id already.
theorem add_cases (row : TextRow) :
    (∃ line, texts.add row = .error line ∧
        (row.text? = none ∨ (texts.find? row.entry).isSome = true)) ∨
      ∃ entry, row.text? = some entry ∧ texts.find? row.entry = none ∧
        texts.add row = .ok ⟨texts.entries.insert row.entry entry⟩ := by
  unfold add TextRow.text?
  cases TextRange.ofId? row.entry with
  | none => exact .inl ⟨_, rfl, .inl rfl⟩
  | some range =>
      cases ChatType.ofNumber? row.chatType.toUInt32 with
      | none => exact .inl ⟨_, rfl, .inl rfl⟩
      | some chat =>
          dsimp only
          rw [contains_eq]
          cases held : texts.find? row.entry with
          | some entry => exact .inl ⟨_, rfl, .inr rfl⟩
          | none => exact .inr ⟨_, rfl, rfl, rfl⟩

theorem find?_addAll (rows : List TextRow) :
    (texts.addAll rows).value.find? id =
      (texts.find? id).or ((rows.filter (·.entry = id)).findSome? TextRow.text?) := by
  induction rows generalizing texts with
  | nil => simp [addAll]
  | cons row rest ih =>
      rcases texts.add_cases row with ⟨line, refused, reason⟩ | ⟨entry, text, absent, added⟩
      · have passed : ((texts.addAll (row :: rest)).value).find? id =
            (texts.addAll rest).value.find? id := by
          simp only [addAll, refused]
        rw [passed, ih]
        -- A row of the id that is left out was no candidate, or came too late to be the first.
        by_cases same : row.entry = id
        · subst id
          rcases reason with empty | held
          · simp [empty]
          · obtain ⟨entry, held⟩ := Option.isSome_iff_exists.mp held
            simp [held]
        · simp [same]
      · have passed : ((texts.addAll (row :: rest)).value).find? id =
            (Texts.addAll ⟨texts.entries.insert row.entry entry⟩ rest).value.find? id := by
          simp only [addAll, added]
        have first : (Texts.mk (texts.entries.insert row.entry entry)).find? id =
            if id = row.entry then some entry else texts.find? id :=
          OrderedMap.find?_insert_ite _ _ _ _
        rw [passed, ih, first]
        by_cases same : row.entry = id
        · subst id
          simp [absent, text]
        · have other : id ≠ row.entry := Ne.symm same
          simp [same, other]

theorem find?_ofRows (rows : List TextRow) :
    (ofRows rows).value.find? id = (rows.filter (·.entry = id)).findSome? TextRow.text? :=
  find?_addAll {} id rows

theorem contains_ofRows (rows : List TextRow) :
    (ofRows rows).value.contains id = true ↔
      ∃ row ∈ rows, row.entry = id ∧ row.text?.isSome = true := by
  rw [contains_eq, find?_ofRows, List.findSome?_isSome_iff]
  simp only [List.mem_filter, decide_eq_true_eq, and_assoc]

end Texts

namespace OrderedMap

variable {κ : Type} [Ranked κ] [DecidableEq κ]

theorem mem_keys_insert {α : Type} (map : OrderedMap κ α) (key wanted : κ) (value : α) :
    wanted ∈ (map.insert key value).keys ↔ wanted = key ∨ wanted ∈ map.keys := by
  rw [← contains_iff_mem_keys, ← contains_iff_mem_keys, contains, contains, find?_insert_ite]
  by_cases same : wanted = key <;> simp [same]

theorem mem_keys_foldl_insert (keys : List κ) (map : OrderedMap κ Unit) (wanted : κ) :
    wanted ∈ (keys.foldl (fun seen key => seen.insert key ()) map).keys ↔
      wanted ∈ keys ∨ wanted ∈ map.keys := by
  induction keys generalizing map with
  | nil => simp
  | cons key rest ih =>
      rw [List.foldl_cons, ih, mem_keys_insert, List.mem_cons, ← or_assoc, or_comm (b := wanted = key)]

end OrderedMap

namespace Texts

variable (texts : Texts) (ids : List Int32)

theorem mem_missing {id : Int32} :
    id ∈ texts.missing ids ↔ id ∈ ids ∧ texts.contains id = false := by
  unfold missing
  rw [OrderedMap.mem_keys_foldl_insert]
  simp [OrderedMap.keys, OrderedMap.empty]

theorem missing_ascending : (texts.missing ids).Pairwise (· < ·) := by
  have sorted := (Entries.sorted_iff_keys _).mp
    ((ids.filter fun id => !texts.contains id).foldl (fun seen id => seen.insert id ())
      (.empty : OrderedMap Int32 Unit)).sorted
  refine sorted.imp fun {first second} less => Int32.lt_iff_toInt_lt.mpr ?_
  have least := Int32.le_toInt first
  have later : (first.toInt + 0x80000000).toNat < (second.toInt + 0x80000000).toNat := less
  omega

end Texts

end WorldScripts
