import WorldScripts.Schedule.Heap

/-!
Values that become due. Each value lies in a slot of its own, and a heap of marks tells which slot is
due next. A value that is taken out leaves an empty slot behind; once there are too many of those,
the remaining values are moved together. The mark on top of the heap is never stale, so the time
that comes next can be read off without a search.
-/

namespace WorldScripts

structure Schedule (α : Type) where
  heap : Schedule.Heap := .empty
  slots : Array (Option α) := #[]
  /-- How many slots are occupied. -/
  live : Nat := 0
  nextStamp : Nat := 0
  /-- How many empty slots are put up with. -/
  slack : Nat := 64

namespace Schedule

variable {α : Type}

instance : Inhabited (Schedule α) := ⟨{}⟩

def add (schedule : Schedule α) (due : UInt64) (value : α) : Schedule α :=
  { schedule with
    heap := schedule.heap.push ⟨due, schedule.nextStamp, schedule.slots.size⟩
    slots := schedule.slots.push (some value)
    live := schedule.live + 1
    nextStamp := schedule.nextStamp + 1 }

/-- The slot of a mark is empty, or there is none. -/
def isStale (slots : Array (Option α)) (mark : Mark) : Bool :=
  !((slots[mark.slot]?).getD none).isSome

def dropStale (schedule : Schedule α) : Schedule α :=
  { schedule with heap := schedule.heap.dropWhile (isStale schedule.slots) }

/-- Where the value of each slot is moved, counted on from `next`. -/
def places (next : Nat) : List (Option α) → List (Option Nat)
  | [] => []
  | none :: rest => none :: places next rest
  | some _ :: rest => some next :: places (next + 1) rest

/-- Moves the values together if too many slots are empty. Marks of empty slots are dropped. -/
def compact (schedule : Schedule α) : Schedule α :=
  if schedule.slots.size - schedule.live ≤ schedule.slack then schedule
  else
    let moved := (places 0 schedule.slots.toList).toArray
    let marks := schedule.heap.toList.filterMap fun mark =>
      ((moved[mark.slot]?).getD none).map fun slot => { mark with slot }
    { schedule with
      heap := .ofList marks
      slots := schedule.slots.filter Option.isSome }

def dueMarks (schedule : Schedule α) (now : UInt64) : Nat :=
  schedule.heap.toList.countP fun mark => mark.due ≤ now

theorem dueMarks_dropStale_le (schedule : Schedule α) (now : UInt64) :
    schedule.dropStale.dueMarks now ≤ schedule.dueMarks now := by
  obtain ⟨removed, _, kept⟩ := schedule.heap.toList_dropWhile (isStale schedule.slots)
  unfold dueMarks
  rw [kept.countP_eq, List.countP_append]
  exact Nat.le_add_left _ _

theorem dueMarks_compact_le (schedule : Schedule α) (now : UInt64) :
    schedule.compact.dueMarks now ≤ schedule.dueMarks now := by
  unfold compact
  split
  · exact Nat.le_refl _
  · unfold dueMarks
    rw [(Heap.toList_ofList _).countP_eq, List.countP_filterMap]
    apply List.countP_mono_left
    intro mark _ due
    cases place : ((places 0 schedule.slots.toList)[mark.slot]?).getD none with
    | none => simp [place] at due
    | some slot => simpa [place] using due

/-- Takes out the value that is due first, if it is due by now. -/
def popDue (schedule : Schedule α) (now : UInt64) : Option (UInt64 × α) × Schedule α :=
  match schedule.heap.top? with
  | none => (none, schedule)
  | some mark =>
      if now < mark.due then (none, schedule)
      else
        let rest := { schedule with heap := schedule.heap.pop }
        match (schedule.slots[mark.slot]?).getD none with
        | none => (none, rest)
        | some value =>
            let rest := { rest with
              slots := schedule.slots.setIfInBounds mark.slot none
              live := schedule.live - 1 }
            (some (mark.due, value), rest.dropStale.compact)

theorem dueMarks_popDue_lt {schedule rest : Schedule α} {now due : UInt64} {value : α}
    (taken : schedule.popDue now = (some (due, value), rest)) :
    rest.dueMarks now < schedule.dueMarks now := by
  unfold popDue at taken
  split at taken
  · simp at taken
  · rename_i mark first
    split at taken
    · simp at taken
    · rename_i reached
      split at taken
      · simp at taken
      · simp only [Prod.mk.injEq] at taken
        rw [← taken.2]
        refine Nat.lt_of_le_of_lt
          (Nat.le_trans (dueMarks_compact_le _ now) (dueMarks_dropStale_le _ now)) ?_
        unfold dueMarks
        rw [(Heap.toList_pop first).countP_eq, List.countP_cons]
        simp [UInt64.not_lt.mp reached]

theorem dueMarks_add_later (schedule : Schedule α) {now due : UInt64} (value : α)
    (later : now < due) : (schedule.add due value).dueMarks now = schedule.dueMarks now := by
  unfold dueMarks add
  rw [(Heap.toList_push _ _).countP_eq, List.countP_cons]
  simp [UInt64.not_le.mpr later]

def pending (schedule : Schedule α) : List α :=
  schedule.slots.toList.filterMap id

def cancelWhere (schedule : Schedule α) (cancelled : α → Bool) : List α × Schedule α :=
  let removed := schedule.pending.filter cancelled
  if removed.isEmpty then ([], schedule)
  else
    let rest := { schedule with
      slots := schedule.slots.map (Option.filter fun value => !cancelled value)
      live := schedule.live - removed.length }
    (removed, rest.dropStale.compact)

def nextDue? (schedule : Schedule α) : Option UInt64 :=
  schedule.heap.top?.map (·.due)

def size (schedule : Schedule α) : Nat :=
  schedule.live

def isEmpty (schedule : Schedule α) : Bool :=
  schedule.live == 0

end Schedule

end WorldScripts
