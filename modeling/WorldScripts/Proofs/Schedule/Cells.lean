import Mathlib.Data.List.Basic
import WorldScripts.Proofs.Schedule.Agenda
import WorldScripts.Proofs.Schedule.HeapOrder
import WorldScripts.Schedule

/-!
The cells of a schedule: for each slot when it is due, in which order it was filled, and what it
still holds. Every operation is said on the cells, which knows nothing of heaps, of empty slots that
are put up with, or of moving values together.
-/

namespace WorldScripts.Schedule

variable {α : Type}

/-- What a slot was filled with, as far as it still holds it. -/
structure Cell (α : Type) where
  due : UInt64
  stamp : Nat
  value : Option α

namespace Cell

def isLive (cell : Cell α) : Bool :=
  cell.value.isSome

def mark (cell : Cell α) (slot : Nat) : Mark :=
  ⟨cell.due, cell.stamp, slot⟩

def timed? (cell : Cell α) : Option (UInt64 × α) :=
  cell.value.map (cell.due, ·)

def vacate (cell : Cell α) : Cell α :=
  { cell with value := none }

theorem isLive_vacate (cell : Cell α) : cell.vacate.isLive = false := rfl

def keep (cell : Cell α) (kept : α → Bool) : Cell α :=
  { cell with value := cell.value.filter kept }

theorem timed?_vacate (cell : Cell α) : cell.vacate.timed? = none := rfl

theorem timed?_keep (cell : Cell α) (kept : α → Bool) :
    (cell.keep kept).timed? = cell.timed?.filter fun entry => kept entry.2 := by
  cases value : cell.value <;> simp [keep, timed?, value, Option.filter, apply_ite]

theorem isLive_of_keep {cell : Cell α} {kept : α → Bool} (live : (cell.keep kept).isLive = true) :
    cell.isLive = true := by
  cases value : cell.value <;> simp_all [keep, isLive]

end Cell

/-- The values that are still held, with the times they are due. -/
def entries (cells : List (Cell α)) : Agenda α :=
  cells.filterMap Cell.timed?

/-- The slots, marks and counts of a schedule are those of its cells. Stale marks and empty slots may be
anywhere. -/
structure Filed (schedule : Schedule α) (cells : List (Cell α)) : Prop where
  slots : schedule.slots.toList = cells.map Cell.value
  live : schedule.live = cells.countP Cell.isLive
  stamps : cells.Pairwise fun a b => a.stamp < b.stamp
  stamped : ∀ cell ∈ cells, cell.stamp < schedule.nextStamp
  ordered : schedule.heap.Ordered
  nodup : schedule.heap.toList.Nodup
  marked : ∀ mark ∈ schedule.heap.toList,
    ∃ cell : Cell α, cells[mark.slot]? = some cell ∧ mark = cell.mark mark.slot
  marks : ∀ slot (cell : Cell α), cells[slot]? = some cell → cell.isLive = true →
    cell.mark slot ∈ schedule.heap.toList

/-- Between operations the mark on top is not stale, and there are not too many empty slots. -/
structure Holds (schedule : Schedule α) (cells : List (Cell α)) : Prop
    extends Filed schedule cells where
  top : ∀ mark, schedule.heap.top? = some mark →
    ∃ cell : Cell α, cells[mark.slot]? = some cell ∧ cell.isLive = true
  tidy : cells.length ≤ schedule.live + schedule.slack

variable {schedule : Schedule α} {cells : List (Cell α)}

theorem holds_empty (slack : Nat) : Holds ({ slack } : Schedule α) [] := by
  constructor
  · constructor <;> simp [Heap.Ordered, Heap.toList]
  · simp [Heap.top?]
  · simp

theorem Filed.width (filed : Filed schedule cells) : schedule.slots.size = cells.length := by
  rw [← Array.length_toList, filed.slots, List.length_map]

theorem stamp_inj {cells : List (Cell α)} (stamps : cells.Pairwise fun a b => a.stamp < b.stamp)
    {slot slot' : Nat} {cell cell' : Cell α} (here : cells[slot]? = some cell)
    (there : cells[slot']? = some cell') (same : cell.stamp = cell'.stamp) : slot = slot' := by
  obtain ⟨inside, rfl⟩ := List.getElem?_eq_some_iff.mp here
  obtain ⟨inside', rfl⟩ := List.getElem?_eq_some_iff.mp there
  rw [List.pairwise_iff_getElem] at stamps
  rcases Nat.lt_trichotomy slot slot' with before | equal | after
  · have := stamps slot slot' inside inside' before
    omega
  · exact equal
  · have := stamps slot' slot inside' inside after
    omega

theorem Filed.mark_inj
    (filed : Filed schedule cells) {mark mark' : Mark} (member : mark ∈ schedule.heap.toList)
    (member' : mark' ∈ schedule.heap.toList) (same : mark.stamp = mark'.stamp) : mark = mark' := by
  obtain ⟨cell, here, eq⟩ := filed.marked mark member
  obtain ⟨cell', there, eq'⟩ := filed.marked mark' member'
  rw [eq, eq'] at same
  have place := stamp_inj filed.stamps here there same
  rw [place] at here eq
  rw [here] at there
  cases there
  rw [eq, eq']
  rfl

theorem Filed.slot_value (filed : Filed schedule cells) {slot : Nat} {cell : Cell α}
    (here : cells[slot]? = some cell) : schedule.slots[slot]? = some cell.value := by
  rw [← Array.getElem?_toList, filed.slots, List.getElem?_map, here]
  rfl

theorem Filed.isStale (filed : Filed schedule cells) {mark : Mark} {cell : Cell α}
    (here : cells[mark.slot]? = some cell) :
    Schedule.isStale schedule.slots mark = !cell.isLive := by
  simp [Schedule.isStale, filed.slot_value here, Cell.isLive]

theorem Filed.pending
    (filed : Filed schedule cells) : schedule.pending = (entries cells).map Prod.snd := by
  simp only [Schedule.pending, filed.slots, List.filterMap_map, entries, List.map_filterMap]
  congr 1
  funext cell
  simp [Cell.timed?, Function.comp_def]

theorem length_entries (cells : List (Cell α)) :
    (entries cells).length = cells.countP Cell.isLive := by
  simp only [entries, List.length_filterMap_eq_countP]
  congr 1
  funext cell
  simp [Cell.timed?, Cell.isLive]

theorem Filed.size (filed : Filed schedule cells) : schedule.size = (entries cells).length := by
  rw [length_entries, ← filed.live]
  rfl

/-! Adding. -/

theorem Holds.add (holds : Holds schedule cells) (due : UInt64) (value : α) :
    Holds (schedule.add due value) (cells ++ [⟨due, schedule.nextStamp, some value⟩]) := by
  have width := holds.width
  have contents := Heap.toList_push schedule.heap ⟨due, schedule.nextStamp, cells.length⟩
  have old {slot : Nat} {cell : Cell α} (here : cells[slot]? = some cell)
      (last : Cell α) : (cells ++ [last])[slot]? = some cell := by
    rw [List.getElem?_append_left (List.getElem?_eq_some_iff.mp here).1, here]
  constructor
  · constructor
    · simp [Schedule.add, holds.slots]
    · simp [Schedule.add, holds.live, List.countP_append, Cell.isLive]
    · rw [List.pairwise_append]
      refine ⟨holds.stamps, List.pairwise_singleton _ _, ?_⟩
      intro cell member last same
      rw [List.mem_singleton.mp same]
      exact holds.stamped cell member
    · intro cell member
      rcases List.mem_append.mp member with before | last
      · exact Nat.lt_succ_of_lt (holds.stamped cell before)
      · rw [List.mem_singleton.mp last]
        exact Nat.lt_succ_self _
    · exact Heap.ordered_push _ holds.ordered
    · simp only [Schedule.add, width]
      rw [contents.nodup_iff, List.nodup_cons]
      -- The new mark points behind the cells, where no mark has pointed so far.
      refine ⟨fun member => ?_, holds.nodup⟩
      obtain ⟨cell, here, _⟩ := holds.marked _ member
      simp at here
    · intro mark member
      simp only [Schedule.add, width] at member
      rcases List.mem_cons.mp (contents.mem_iff.mp member) with fresh | before
      · subst mark
        exact ⟨⟨due, schedule.nextStamp, some value⟩, by simp, rfl⟩
      · obtain ⟨cell, here, same⟩ := holds.marked mark before
        exact ⟨cell, old here _, same⟩
    · intro slot cell here live
      simp only [Schedule.add, width]
      refine contents.mem_iff.mpr ?_
      rcases Nat.lt_or_ge slot cells.length with before | last
      · rw [List.getElem?_append_left before] at here
        exact List.mem_cons_of_mem _ (holds.marks slot cell here live)
      · rw [List.getElem?_append_right last] at here
        obtain ⟨found, same⟩ := List.getElem?_eq_some_iff.mp here
        have place : slot = cells.length := by
          simp only [List.length_singleton] at found
          omega
        subst place
        simp only [Nat.sub_self, List.getElem_cons_zero] at same
        subst same
        exact List.mem_cons_self
  · intro mark first
    rcases Heap.top?_merge first with before | fresh
    · obtain ⟨cell, here, live⟩ := holds.top mark before
      exact ⟨cell, old here _, live⟩
    · cases fresh
      exact ⟨⟨due, schedule.nextStamp, some value⟩, by simp [width], rfl⟩
  · have tidy := holds.tidy
    simp only [Schedule.add, List.length_append, List.length_singleton]
    omega

theorem entries_add (cells : List (Cell α)) (due : UInt64) (stamp : Nat) (value : α) :
    entries (cells ++ [⟨due, stamp, some value⟩]) = entries cells ++ [(due, value)] := by
  simp [entries, Cell.timed?]

/-! Cleaning up: first the top, then the empty slots. -/

theorem Filed.dropStale (filed : Filed schedule cells) : Filed schedule.dropStale cells := by
  obtain ⟨removed, stale, contents⟩ := schedule.heap.toList_dropWhile
    (Schedule.isStale schedule.slots)
  constructor
  · exact filed.slots
  · exact filed.live
  · exact filed.stamps
  · exact filed.stamped
  · exact Heap.ordered_dropWhile _ filed.ordered
  · exact (List.nodup_append.mp (contents.nodup_iff.mp filed.nodup)).2.1
  · intro mark member
    exact filed.marked mark (contents.mem_iff.mpr (List.mem_append_right removed member))
  · intro slot cell here live
    rcases List.mem_append.mp (contents.mem_iff.mp (filed.marks slot cell here live)) with
      gone | kept
    · have old := stale _ gone
      rw [filed.isStale here, live] at old
      cases old
    · exact kept

theorem Filed.dropStale_top (filed : Filed schedule cells) {mark : Mark}
    (first : schedule.dropStale.heap.top? = some mark) :
    ∃ cell : Cell α, cells[mark.slot]? = some cell ∧ cell.isLive = true := by
  have fresh := Heap.top?_dropWhile first
  obtain ⟨cell, here, _⟩ := filed.dropStale.marked mark (Heap.top?_mem first)
  rw [filed.isStale here] at fresh
  exact ⟨cell, here, by simpa using fresh⟩

/-- How many cells before a slot still hold their values, which is where the value of the slot is
moved. -/
def rank (cells : List (Cell α)) (slot : Nat) : Nat :=
  (cells.take slot).countP Cell.isLive

theorem places_cells (cells : List (Cell α)) (next slot : Nat) :
    ((places next (cells.map Cell.value))[slot]?).getD none =
      ((cells[slot]?).filter Cell.isLive).map fun _ => next + rank cells slot := by
  induction cells generalizing next slot with
  | nil => simp [places]
  | cons cell rest ih =>
      cases value : cell.value with
      | none =>
          cases slot with
          | zero => simp [places, value, Option.filter, Cell.isLive]
          | succ slot => simpa [places, value, rank, Cell.isLive] using ih next slot
      | some held =>
          cases slot with
          | zero => simp [places, value, Option.filter, Cell.isLive, rank]
          | succ slot =>
              simpa [places, value, rank, Cell.isLive, Nat.add_comm, Nat.add_left_comm,
                Nat.add_assoc] using ih (next + 1) slot

theorem getElem?_rank {cells : List (Cell α)} {slot : Nat} {cell : Cell α}
    (here : cells[slot]? = some cell) (live : cell.isLive = true) :
    (cells.filter Cell.isLive)[rank cells slot]? = some cell := by
  induction cells generalizing slot with
  | nil => simp at here
  | cons first rest ih =>
      cases slot with
      | zero =>
          cases here
          simp [rank, live]
      | succ slot =>
          have later := ih here
          by_cases held : first.isLive = true
          · simpa [rank, held] using later
          · simpa [rank, held] using later

theorem exists_rank {cells : List (Cell α)} {place : Nat} {cell : Cell α}
    (there : (cells.filter Cell.isLive)[place]? = some cell) :
    ∃ slot, cells[slot]? = some cell ∧ rank cells slot = place := by
  induction cells generalizing place with
  | nil => simp at there
  | cons first rest ih =>
      by_cases held : first.isLive = true
      · cases place with
        | zero =>
            simp [held] at there
            exact ⟨0, by simp [there], by simp [rank]⟩
        | succ place =>
            simp [held] at there
            obtain ⟨slot, here, same⟩ := ih there
            exact ⟨slot + 1, here, by simpa [rank, held] using same⟩
      · simp [held] at there
        obtain ⟨slot, here, same⟩ := ih there
        exact ⟨slot + 1, here, by simpa [rank, held] using same⟩

theorem entries_filter_isLive (cells : List (Cell α)) :
    entries (cells.filter Cell.isLive) = entries cells := by
  simp only [entries, List.filterMap_filter]
  congr 1
  funext cell
  cases value : cell.value <;> simp [Cell.isLive, Cell.timed?, value]

/-- Where a mark is moved, if it is not stale. -/
def Mark.move (cells : List (Cell α)) (mark : Mark) : Option Mark :=
  ((cells[mark.slot]?).filter Cell.isLive).map fun _ => { mark with slot := rank cells mark.slot }

theorem Mark.move_eq_some_iff {cells : List (Cell α)} {mark moved : Mark} :
    mark.move cells = some moved ↔
      (∃ cell, cells[mark.slot]? = some cell ∧ cell.isLive = true) ∧
        moved = { mark with slot := rank cells mark.slot } := by
  simp only [Mark.move, Option.map_eq_some_iff, Option.filter_eq_some_iff]
  constructor
  · rintro ⟨cell, ⟨here, live⟩, rfl⟩
    exact ⟨⟨cell, here, live⟩, rfl⟩
  · rintro ⟨⟨cell, here, live⟩, rfl⟩
    exact ⟨cell, ⟨here, live⟩, rfl⟩

-- Moving the values together keeps the entries. The number of empty slots does not matter.
theorem Filed.compact (filed : Filed schedule cells)
    (top : ∀ mark, schedule.heap.top? = some mark →
      ∃ cell, cells[mark.slot]? = some cell ∧ cell.isLive = true) :
    ∃ kept, Holds schedule.compact kept ∧ entries kept = entries cells := by
  unfold Schedule.compact
  split
  · rename_i few
    refine ⟨cells, ⟨filed, top, ?_⟩, rfl⟩
    rw [filed.width] at few
    omega
  · have marks_eq : (schedule.heap.toList.filterMap fun mark =>
        (((places 0 schedule.slots.toList).toArray[mark.slot]?).getD none).map
          fun slot => { mark with slot }) = schedule.heap.toList.filterMap (Mark.move cells) := by
      congr 1
      funext mark
      rw [List.getElem?_toArray, filed.slots, places_cells, Option.map_map]
      simp [Mark.move, Function.comp_def]
    have contents := Heap.toList_ofList (schedule.heap.toList.filterMap (Mark.move cells))
    refine ⟨cells.filter Cell.isLive, ?_, entries_filter_isLive cells⟩
    have marked : ∀ mark ∈ (Heap.ofList (schedule.heap.toList.filterMap (Mark.move cells))).toList,
        ∃ cell : Cell α, (cells.filter Cell.isLive)[mark.slot]? = some cell ∧
          mark = cell.mark mark.slot := by
      intro moved member
      obtain ⟨mark, before, move⟩ := List.mem_filterMap.mp (contents.mem_iff.mp member)
      obtain ⟨⟨cell, here, live⟩, rfl⟩ := Mark.move_eq_some_iff.mp move
      obtain ⟨cell', here', same⟩ := filed.marked mark before
      rw [here] at here'
      cases here'
      refine ⟨cell, getElem?_rank here live, ?_⟩
      rw [same]
      rfl
    constructor
    · constructor
      · rw [Array.toList_filter, filed.slots, List.filter_map]
        rfl
      · simp [filed.live, List.countP_filter]
      · exact filed.stamps.filter _
      · intro cell member
        exact filed.stamped cell (List.mem_filter.mp member).1
      · exact Heap.ordered_ofList _
      · simp only [marks_eq]
        -- Marks are told apart by their stamps, which they keep when they are moved.
        rw [contents.nodup_iff, List.Nodup, List.pairwise_filterMap]
        refine filed.nodup.imp_of_mem ?_
        intro mark mark' member member' different moved move moved' move' same
        apply different
        apply filed.mark_inj member member'
        obtain ⟨_, rfl⟩ := Mark.move_eq_some_iff.mp move
        obtain ⟨_, rfl⟩ := Mark.move_eq_some_iff.mp move'
        exact (Mark.mk.inj same).2.1
      · simpa only [marks_eq] using marked
      · intro place cell there live
        obtain ⟨slot, here, rfl⟩ := exists_rank there
        simp only [marks_eq]
        refine contents.mem_iff.mpr (List.mem_filterMap.mpr ?_)
        refine ⟨cell.mark slot, filed.marks slot cell here live, ?_⟩
        exact Mark.move_eq_some_iff.mpr ⟨⟨cell, here, live⟩, rfl⟩
    · intro mark first
      simp only [marks_eq] at first
      obtain ⟨cell, there, _⟩ := marked mark (Heap.top?_mem first)
      exact ⟨cell, there, (List.mem_filter.mp (List.mem_of_getElem? there)).2⟩
    · rw [← List.countP_eq_length_filter, ← filed.live]
      exact Nat.le_add_right _ _

/-! Taking out the first value. -/

theorem mem_entries {cells : List (Cell α)} {entry : UInt64 × α} :
    entry ∈ entries cells ↔ ∃ cell ∈ cells, cell.due = entry.1 ∧ cell.value = some entry.2 := by
  simp only [entries, List.mem_filterMap, Cell.timed?, Option.map_eq_some_iff]
  constructor
  · rintro ⟨cell, member, value, held, rfl⟩
    exact ⟨cell, member, rfl, held⟩
  · rintro ⟨cell, member, due, held⟩
    exact ⟨cell, member, entry.2, held, by rw [due]⟩

theorem exists_around {cells : List (Cell α)} {slot : Nat} {cell : Cell α}
    (here : cells[slot]? = some cell) :
    ∃ before after, cells = before ++ cell :: after ∧ before.length = slot := by
  obtain ⟨inside, rfl⟩ := List.getElem?_eq_some_iff.mp here
  refine ⟨cells.take slot, cells.drop (slot + 1), ?_, by simp; omega⟩
  rw [List.getElem_cons_drop, List.take_append_drop]

theorem Filed.leads {before after : List (Cell α)} {cell : Cell α}
    (filed : Filed schedule (before ++ cell :: after)) {value : α}
    (first : schedule.heap.top? = some (cell.mark before.length)) :
    Agenda.Leads (entries before) (cell.due, value) (entries after) := by
  have stamps := List.pairwise_append.mp filed.stamps
  constructor
  · intro entry member
    obtain ⟨other, inside, due, held⟩ := mem_entries.mp member
    obtain ⟨slot, found, rfl⟩ := List.mem_iff_getElem.mp inside
    have marked := filed.marks slot before[slot]
      (by rw [List.getElem?_append_left found, List.getElem?_eq_getElem found])
      (by simp [Cell.isLive, held])
    have earlier := stamps.2.2 _ inside cell List.mem_cons_self
    -- At the same time the mark with the smaller stamp would be on top.
    rcases (Mark.before_iff _ _).mp (Heap.top?_before filed.ordered first marked) with
      sooner | ⟨_, notAfter⟩
    · rw [← due]
      exact sooner
    · simp only [Cell.mark] at notAfter
      omega
  · intro entry member
    obtain ⟨other, inside, due, held⟩ := mem_entries.mp member
    obtain ⟨slot, found, rfl⟩ := List.mem_iff_getElem.mp inside
    have marked := filed.marks (before.length + (slot + 1)) after[slot]
      (by rw [List.getElem?_append_right (Nat.le_add_right _ _), Nat.add_sub_cancel_left,
        List.getElem?_cons_succ, List.getElem?_eq_getElem found])
      (by simp [Cell.isLive, held])
    rw [← due]
    rcases (Mark.before_iff _ _).mp (Heap.top?_before filed.ordered first marked) with
      sooner | ⟨same, _⟩
    · exact UInt64.le_of_lt sooner
    · exact UInt64.le_of_eq same

theorem Filed.vacate {before after : List (Cell α)} {cell : Cell α}
    (filed : Filed schedule (before ++ cell :: after)) (live : cell.isLive = true)
    (first : schedule.heap.top? = some (cell.mark before.length)) :
    Filed
      { schedule with
        heap := schedule.heap.pop
        slots := schedule.slots.setIfInBounds before.length none
        live := schedule.live - 1 }
      (before ++ cell.vacate :: after) := by
  have contents := Heap.toList_pop first
  have nodup := contents.nodup_iff.mp filed.nodup
  constructor
  · simp [Array.toList_setIfInBounds, filed.slots, Cell.vacate]
  · simp only [filed.live, List.countP_append, List.countP_cons, live, cell.isLive_vacate]
    rfl
  · have stamps := filed.stamps
    rw [List.pairwise_append, List.pairwise_cons] at stamps ⊢
    obtain ⟨stampsBefore, ⟨cellBefore, stampsAfter⟩, across⟩ := stamps
    refine ⟨stampsBefore, ⟨cellBefore, stampsAfter⟩, ?_⟩
    intro other inside last member
    rcases List.mem_cons.mp member with same | later
    · subst last
      exact across other inside cell List.mem_cons_self
    · exact across other inside last (List.mem_cons_of_mem _ later)
  · intro other member
    rcases List.mem_append.mp member with earlier | later
    · exact filed.stamped other (List.mem_append_left _ earlier)
    · rcases List.mem_cons.mp later with same | later
      · subst other
        exact filed.stamped cell (by simp)
      · exact filed.stamped other (by simp [later])
  · exact Heap.ordered_pop filed.ordered
  · exact (List.nodup_cons.mp nodup).2
  · intro mark member
    obtain ⟨other, here, same⟩ :=
      filed.marked mark (contents.mem_iff.mpr (List.mem_cons_of_mem _ member))
    -- What a mark says of its cell has nothing to do with the value.
    by_cases place : mark.slot = before.length
    · rw [place, List.getElem?_append_right (Nat.le_refl _), Nat.sub_self] at here
      cases here
      exact ⟨cell.vacate, by simp [place], same⟩
    · refine ⟨other, ?_, same⟩
      rw [← List.getElem?_set_ne (Ne.symm place), List.set_append_right _ _ (Nat.le_refl _),
        Nat.sub_self, List.set_cons_zero] at here
      exact here
  · intro slot other here held
    by_cases place : slot = before.length
    · subst slot
      rw [List.getElem?_append_right (Nat.le_refl _), Nat.sub_self] at here
      cases here
      cases held
    · have old : (before ++ cell :: after)[slot]? = some other := by
        rw [← List.getElem?_set_ne (Ne.symm place), List.set_append_right _ _ (Nat.le_refl _),
          Nat.sub_self, List.set_cons_zero]
        exact here
      -- Only the top was taken off the heap, and that is the mark of another slot.
      rcases List.mem_cons.mp (contents.mem_iff.mp (filed.marks slot other old held)) with
        same | kept
      · exact absurd (congrArg Mark.slot same) place
      · exact kept

theorem entries_around {before after : List (Cell α)} {cell : Cell α} {value : α}
    (held : cell.value = some value) :
    entries (before ++ cell :: after) = entries before ++ (cell.due, value) :: entries after := by
  simp [entries, Cell.timed?, held]

theorem entries_vacate (before after : List (Cell α)) (cell : Cell α) :
    entries (before ++ cell.vacate :: after) = entries before ++ entries after := by
  rw [entries, List.filterMap_append, List.filterMap_cons_none cell.timed?_vacate]
  rfl

theorem Filed.entries_of_empty
    (filed : Filed schedule cells) (empty : schedule.heap.top? = none) : entries cells = [] := by
  refine List.eq_nil_iff_forall_not_mem.mpr fun entry member => ?_
  obtain ⟨cell, inside, _, held⟩ := mem_entries.mp member
  obtain ⟨slot, here⟩ := List.mem_iff_getElem?.mp inside
  have marked := filed.marks slot cell here (by simp [Cell.isLive, held])
  rw [Heap.top?_eq_none.mp empty] at marked
  cases marked

theorem Holds.exists_top
    (holds : Holds schedule cells) {mark : Mark} (first : schedule.heap.top? = some mark) :
    ∃ before cell after value, cells = before ++ cell :: after ∧
      mark = cell.mark before.length ∧ cell.value = some value ∧
      schedule.slots[before.length]? = some (some value) := by
  obtain ⟨cell, here, live⟩ := holds.top mark first
  obtain ⟨cell', here', same⟩ := holds.marked mark (Heap.top?_mem first)
  rw [here] at here'
  cases here'
  obtain ⟨value, held⟩ := Option.isSome_iff_exists.mp live
  have inside := holds.slot_value here
  rw [held] at inside
  obtain ⟨before, after, rfl, place⟩ := exists_around here
  rw [← place] at same inside
  exact ⟨before, cell, after, value, rfl, same, held, inside⟩

theorem Holds.popDue (holds : Holds schedule cells) (now : UInt64) :
    ∃ left, Holds (schedule.popDue now).2 left ∧
      Agenda.popDue (entries cells) now = ((schedule.popDue now).1, entries left) := by
  cases first : schedule.heap.top? with
  | none =>
      refine ⟨cells, ?_, ?_⟩
      · simpa [Schedule.popDue, first] using holds
      · simp [Schedule.popDue, first, holds.entries_of_empty first, Agenda.popDue]
  | some mark =>
      obtain ⟨before, cell, after, value, rfl, rfl, held, inside⟩ := holds.exists_top first
      rw [entries_around held, (holds.leads first).popDue]
      by_cases early : now < cell.due
      · refine ⟨before ++ cell :: after, ?_, ?_⟩
        · simpa [Schedule.popDue, first, Cell.mark, early] using holds
        · simp [Schedule.popDue, first, Cell.mark, early, entries_around held]
      · have filed := holds.vacate (by simp [Cell.isLive, held]) first
        obtain ⟨left, tidied, same⟩ := filed.dropStale.compact fun mark => filed.dropStale_top
        refine ⟨left, ?_, ?_⟩
        · simpa [Schedule.popDue, first, Cell.mark, early, inside] using tidied
        · simp [Schedule.popDue, first, Cell.mark, early, inside, same, entries_vacate]

theorem Holds.nextDue?
    (holds : Holds schedule cells) : schedule.nextDue? = Agenda.nextDue? (entries cells) := by
  cases first : schedule.heap.top? with
  | none => simp [Schedule.nextDue?, first, holds.entries_of_empty first, Agenda.nextDue?]
  | some mark =>
      obtain ⟨before, cell, after, value, rfl, rfl, held, _⟩ := holds.exists_top first
      rw [entries_around held, (holds.leads first).nextDue?]
      simp [Schedule.nextDue?, first, Cell.mark]

/-! Cancelling. -/

theorem entries_keep (cells : List (Cell α)) (kept : α → Bool) :
    entries (cells.map (Cell.keep · kept)) =
      (entries cells).filter fun entry => kept entry.2 := by
  simp only [entries, List.filterMap_map, List.filter_filterMap]
  congr 1
  funext cell
  exact cell.timed?_keep kept

theorem Filed.keep (filed : Filed schedule cells) (kept : α → Bool) {removed : Nat}
    (count : (cells.map (Cell.keep · kept)).countP Cell.isLive + removed = schedule.live) :
    Filed
      { schedule with
        slots := schedule.slots.map (Option.filter kept)
        live := schedule.live - removed }
      (cells.map (Cell.keep · kept)) := by
  constructor
  · simp [filed.slots, Function.comp_def, Cell.keep]
  · simp only
    omega
  · rw [List.pairwise_map]
    exact filed.stamps
  · intro cell member
    obtain ⟨old, before, rfl⟩ := List.mem_map.mp member
    exact filed.stamped old before
  · exact filed.ordered
  · exact filed.nodup
  · intro mark member
    obtain ⟨cell, here, same⟩ := filed.marked mark member
    exact ⟨cell.keep kept, by simp [here], same⟩
  · intro slot cell here live
    rw [List.getElem?_map] at here
    obtain ⟨old, before, rfl⟩ := Option.map_eq_some_iff.mp here
    exact filed.marks slot old before (Cell.isLive_of_keep live)

theorem Filed.count_keep (filed : Filed schedule cells) (cancelled : α → Bool) :
    (cells.map (Cell.keep · fun value => !cancelled value)).countP Cell.isLive +
      (schedule.pending.filter cancelled).length = schedule.live := by
  have removed : schedule.pending.filter cancelled =
      ((entries cells).filter fun entry => cancelled entry.2).map Prod.snd := by
    rw [filed.pending, List.filter_map]
    rfl
  have parts := List.length_eq_length_filter_add (l := entries cells)
    fun entry => cancelled entry.2
  rw [← length_entries, entries_keep, removed, List.length_map, filed.live, ← length_entries, parts]
  exact Nat.add_comm _ _

theorem Holds.cancelWhere (holds : Holds schedule cells) (cancelled : α → Bool) :
    ∃ left, Holds (schedule.cancelWhere cancelled).2 left ∧
      Agenda.cancelWhere (entries cells) cancelled =
        ((schedule.cancelWhere cancelled).1, entries left) := by
  unfold Schedule.cancelWhere Agenda.cancelWhere
  rw [← holds.pending]
  by_cases none : (schedule.pending.filter cancelled).isEmpty = true
  · simp only [none, ↓reduceIte]
    refine ⟨cells, holds, ?_⟩
    have empty : schedule.pending.filter cancelled = [] := List.isEmpty_iff.mp none
    rw [empty]
    refine congrArg (Prod.mk []) (List.filter_eq_self.mpr fun entry member => ?_)
    have stays := List.filter_eq_nil_iff.mp empty entry.2
    rw [holds.pending] at stays
    simpa using stays (List.mem_map_of_mem member)
  · have filed := holds.keep (fun value => !cancelled value) (holds.count_keep cancelled)
    simp only [none, Bool.false_eq_true, ↓reduceIte]
    obtain ⟨left, tidied, same⟩ := filed.dropStale.compact fun mark => filed.dropStale_top
    exact ⟨left, tidied, by rw [same, entries_keep]⟩

end WorldScripts.Schedule
