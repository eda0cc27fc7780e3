import Mathlib.Data.List.Nodup
import WorldScripts.Proofs.Schedule.Refinement

/-!
A schedule that watches its own steps. It breaks off where a slot is looked up that does not exist, where
a due mark turns out to have no value, and where a count would go below zero. Marks and slots of a schedule
that was empty at first fit together after every request, so it never has a reason to break off.
-/

namespace WorldScripts.Schedule

variable {α : Type}

/-- Marks and slots fit together. -/
structure Sound (schedule : Schedule α) : Prop where
  live : schedule.live = schedule.slots.toList.countP Option.isSome
  inside : ∀ mark ∈ schedule.heap.toList, mark.slot < schedule.slots.size
  distinct : (schedule.heap.toList.map Mark.slot).Nodup
  marked : ∀ slot value, schedule.slots[slot]? = some (some value) →
    (schedule.heap.toList.map Mark.slot).count slot = 1
  top : ∀ mark, schedule.heap.top? = some mark →
    ∃ value, schedule.slots[mark.slot]? = some (some value)
  ascending : ∀ mark ∈ schedule.heap.toList, ∀ other ∈ schedule.heap.toList,
    mark.slot < other.slot → mark.stamp < other.stamp
  tidy : schedule.slots.size ≤ schedule.live + schedule.slack

section

variable {schedule : Schedule α} {cells : List (Cell α)}

theorem Filed.inside (filed : Filed schedule cells) {mark : Mark}
    (member : mark ∈ schedule.heap.toList) : mark.slot < schedule.slots.size := by
  obtain ⟨cell, here, _⟩ := filed.marked mark member
  rw [filed.width]
  exact (List.getElem?_eq_some_iff.mp here).1

theorem Filed.distinct (filed : Filed schedule cells) :
    (schedule.heap.toList.map Mark.slot).Nodup := by
  apply List.Nodup.map_on _ filed.nodup
  intro mark member other member' same
  obtain ⟨cell, here, eq⟩ := filed.marked mark member
  obtain ⟨cell', there, eq'⟩ := filed.marked other member'
  rw [← same, here] at there
  cases there
  rw [eq, eq', same]

theorem Filed.ascending (filed : Filed schedule cells) {mark other : Mark}
    (member : mark ∈ schedule.heap.toList) (member' : other ∈ schedule.heap.toList)
    (before : mark.slot < other.slot) : mark.stamp < other.stamp := by
  obtain ⟨cell, here, eq⟩ := filed.marked mark member
  obtain ⟨cell', there, eq'⟩ := filed.marked other member'
  obtain ⟨found, rfl⟩ := List.getElem?_eq_some_iff.mp here
  obtain ⟨found', rfl⟩ := List.getElem?_eq_some_iff.mp there
  rw [eq, eq']
  exact List.pairwise_iff_getElem.mp filed.stamps _ _ found found' before

theorem Filed.live_le (filed : Filed schedule cells) : schedule.live ≤ schedule.slots.size := by
  rw [filed.live, filed.width]
  exact List.countP_le_length

theorem Holds.sound (holds : Holds schedule cells) : Sound schedule := by
  constructor
  · rw [holds.live, holds.slots, List.countP_map]
    rfl
  · intro mark member
    exact holds.inside member
  · exact holds.distinct
  · intro slot value held
    rw [← Array.getElem?_toList, holds.slots, List.getElem?_map] at held
    obtain ⟨cell, here, same⟩ := Option.map_eq_some_iff.mp held
    have mark := holds.marks slot cell here (by simp [Cell.isLive, same])
    exact List.count_eq_one_of_mem holds.distinct (List.mem_map_of_mem mark)
  · intro mark first
    obtain ⟨cell, here, live⟩ := holds.top mark first
    obtain ⟨value, held⟩ := Option.isSome_iff_exists.mp live
    exact ⟨value, by rw [← held]; exact holds.slot_value here⟩
  · intro mark member other member' before
    exact holds.ascending member member' before
  · rw [holds.width]
    exact holds.tidy

end

/-! Every step with its guards. -/

/-- What is left of a count, unless more is taken away than there is. -/
def less? (count taken : Nat) : Option Nat :=
  if taken ≤ count then some (count - taken) else none

theorem less?_eq {count taken : Nat} (enough : taken ≤ count) :
    less? count taken = some (count - taken) :=
  if_pos enough

def Heap.dropWhile? (stale : Mark → Option Bool) : Heap → Option Heap
  | empty => some empty
  | node h mark left right => do
      if ← stale mark then dropWhile? stale (left.merge right) else some (node h mark left right)
  termination_by heap => heap.size
  decreasing_by simp only [size_merge, size]; omega

theorem Heap.dropWhile?_eq {stale? : Mark → Option Bool} {stale : Mark → Bool} {heap : Heap}
    (told : ∀ mark ∈ heap.toList, stale? mark = some (stale mark)) :
    heap.dropWhile? stale? = some (heap.dropWhile stale) := by
  fun_induction dropWhile stale heap with
  | case1 => rw [dropWhile?]
  | case2 h mark left right old ih =>
      have under : ∀ other ∈ (left.merge right).toList, stale? other = some (stale other) := by
        intro other member
        exact told other (List.mem_cons_of_mem mark ((toList_merge left right).mem_iff.mp member))
      rw [dropWhile?, told mark List.mem_cons_self, old]
      exact ih under
  | case3 h mark left right fresh =>
      rw [dropWhile?, told mark List.mem_cons_self, Bool.eq_false_iff.mpr fresh]
      rfl

def dropStale? (schedule : Schedule α) : Option (Schedule α) := do
  let heap ← schedule.heap.dropWhile? fun mark => (schedule.slots[mark.slot]?).map Option.isNone
  return { schedule with heap }

def moveAll? (moved : Array (Option Nat)) : List Mark → Option (List Mark)
  | [] => some []
  | mark :: rest => do
      let place ← moved[mark.slot]?
      let others ← moveAll? moved rest
      return ((place.map fun slot => { mark with slot }).toList ++ others)

def compact? (schedule : Schedule α) : Option (Schedule α) := do
  let gaps ← less? schedule.slots.size schedule.live
  if gaps ≤ schedule.slack then return schedule
  let marks ← moveAll? (places 0 schedule.slots.toList).toArray schedule.heap.toList
  return { schedule with
    heap := .ofList marks
    slots := schedule.slots.filter Option.isSome }

def popDue? (schedule : Schedule α) (now : UInt64) :
    Option (Option (UInt64 × α) × Schedule α) :=
  match schedule.heap.top? with
  | none => some (none, schedule)
  | some mark =>
      if now < mark.due then some (none, schedule)
      else do
        let held ← schedule.slots[mark.slot]?
        -- The mark is used up, so without a value an entry would be lost.
        let value ← held
        let live ← less? schedule.live 1
        let slots := schedule.slots.setIfInBounds mark.slot none
        let rest ← { schedule with heap := schedule.heap.pop, slots, live }.dropStale?
        return (some (mark.due, value), ← rest.compact?)

def cancelWhere? (schedule : Schedule α) (cancelled : α → Bool) :
    Option (List α × Schedule α) :=
  let removed := schedule.pending.filter cancelled
  if removed.isEmpty then some ([], schedule)
  else do
    let live ← less? schedule.live removed.length
    let slots := schedule.slots.map (Option.filter fun value => !cancelled value)
    let rest ← { schedule with slots, live }.dropStale?
    return (removed, ← rest.compact?)

def serve? (schedule : Schedule α) : Request α → Option (Answer α × Schedule α)
  | .popDue now => do
      let (first, rest) ← schedule.popDue? now
      return (.popped first, rest)
  | .cancelWhere cancelled => do
      let (values, rest) ← schedule.cancelWhere? cancelled
      return (.cancelled values, rest)
  | request => some (schedule.serve request)

def serveAll? : List (Request α) → Schedule α → Option (List (Answer α) × Schedule α)
  | [], schedule => some ([], schedule)
  | request :: rest, schedule => do
      let (answer, schedule) ← schedule.serve? request
      let (answers, schedule) ← serveAll? rest schedule
      return (answer :: answers, schedule)

/-! No guard breaks off. -/

section

variable {schedule : Schedule α} {cells : List (Cell α)}

theorem Filed.dropStale? (filed : Filed schedule cells) :
    schedule.dropStale? = some schedule.dropStale := by
  have told : ∀ mark ∈ schedule.heap.toList,
      (schedule.slots[mark.slot]?).map Option.isNone =
        some (Schedule.isStale schedule.slots mark) := by
    intro mark member
    rw [Schedule.isStale, Array.getElem?_eq_getElem (filed.inside member), Option.not_isSome]
    rfl
  rw [Schedule.dropStale?, Heap.dropWhile?_eq told]
  rfl

theorem length_places (next : Nat) (slots : List (Option α)) :
    (places next slots).length = slots.length := by
  induction slots generalizing next with
  | nil => rfl
  | cons slot rest ih =>
      cases slot with
      | none => rw [places, List.length_cons, List.length_cons, ih]
      | some value => rw [places, List.length_cons, List.length_cons, ih]

theorem moveAll?_eq {moved : Array (Option Nat)} {marks : List Mark}
    (inside : ∀ mark ∈ marks, mark.slot < moved.size) :
    moveAll? moved marks = some (marks.filterMap fun mark =>
      ((moved[mark.slot]?).getD none).map fun slot => { mark with slot }) := by
  induction marks with
  | nil => rfl
  | cons mark rest ih =>
      have later := ih fun other member => inside other (List.mem_cons_of_mem mark member)
      obtain ⟨place, here⟩ : ∃ place, moved[mark.slot]? = some place :=
        ⟨_, Array.getElem?_eq_getElem (inside mark List.mem_cons_self)⟩
      rw [moveAll?, later, List.filterMap_cons, here]
      cases place with
      | none => rfl
      | some slot => rfl

theorem Filed.compact? (filed : Filed schedule cells) :
    schedule.compact? = some schedule.compact := by
  have inside : ∀ mark ∈ schedule.heap.toList,
      mark.slot < (places 0 schedule.slots.toList).toArray.size := by
    intro mark member
    rw [List.size_toArray, length_places, Array.length_toList]
    exact filed.inside member
  rw [Schedule.compact?, less?_eq filed.live_le, moveAll?_eq inside, Schedule.compact]
  by_cases few : schedule.slots.size - schedule.live ≤ schedule.slack
  · simp [few]
  · simp [few]

theorem Holds.popDue? (holds : Holds schedule cells) (now : UInt64) :
    schedule.popDue? now = some (schedule.popDue now) := by
  unfold Schedule.popDue? Schedule.popDue
  cases first : schedule.heap.top? with
  | none => rfl
  | some mark =>
      obtain ⟨before, cell, after, value, rfl, rfl, held, inside⟩ := holds.exists_top first
      by_cases early : now < cell.due
      · simp [Cell.mark, early]
      · have live : cell.isLive = true := by simp [Cell.isLive, held]
        have counted : 1 ≤ schedule.live := by
          rw [holds.live]
          exact List.countP_pos_iff.mpr ⟨cell, by simp, live⟩
        have filed := holds.vacate live first
        simp [Cell.mark, early, inside, less?_eq counted, filed.dropStale?, filed.dropStale.compact?]

theorem Holds.cancelWhere? (holds : Holds schedule cells) (cancelled : α → Bool) :
    schedule.cancelWhere? cancelled = some (schedule.cancelWhere cancelled) := by
  have count := holds.count_keep cancelled
  have filed := holds.keep (fun value => !cancelled value) count
  have counted : (schedule.pending.filter cancelled).length ≤ schedule.live := by
    rw [← count]
    exact Nat.le_add_left _ _
  unfold Schedule.cancelWhere? Schedule.cancelWhere
  by_cases none : (schedule.pending.filter cancelled).isEmpty = true
  · simp only [none, ↓reduceIte]
  · simp [none, less?_eq counted, filed.dropStale?, filed.dropStale.compact?]

end

theorem slack_compact (schedule : Schedule α) : schedule.compact.slack = schedule.slack := by
  unfold compact
  split <;> rfl

theorem slack_serve (schedule : Schedule α) (request : Request α) :
    (schedule.serve request).2.slack = schedule.slack := by
  cases request with
  | popDue now =>
      show (schedule.popDue now).2.slack = schedule.slack
      unfold popDue
      cases schedule.heap.top? with
      | none => rfl
      | some mark =>
          by_cases early : now < mark.due
          · simp [early]
          · cases held : (schedule.slots[mark.slot]?).getD none with
            | none => simp [early, held]
            | some value => simp [early, held, slack_compact, dropStale]
  | cancelWhere cancelled =>
      show (schedule.cancelWhere cancelled).2.slack = schedule.slack
      unfold cancelWhere
      by_cases none : (schedule.pending.filter cancelled).isEmpty = true
      · simp [none]
      · simp [none, slack_compact, dropStale]
  | _ => rfl

theorem Represents.serve? {schedule : Schedule α} {agenda : Agenda α}
    (represents : Represents schedule agenda) (request : Request α) :
    schedule.serve? request = some (schedule.serve request) := by
  obtain ⟨cells, holds, _⟩ := represents
  cases request with
  | popDue now =>
      rw [Schedule.serve?, holds.popDue?]
      rfl
  | cancelWhere cancelled =>
      rw [Schedule.serve?, holds.cancelWhere?]
      rfl
  | _ => rfl

theorem Represents.serveAll? (requests : List (Request α)) {schedule : Schedule α}
    {agenda : Agenda α} (represents : Represents schedule agenda) :
    Schedule.serveAll? requests schedule = some (serveAll serve requests schedule) := by
  induction requests generalizing schedule agenda with
  | nil => rfl
  | cons request rest ih =>
      have next := (serve_represents represents request).2
      rw [Schedule.serveAll?, represents.serve?]
      show (Schedule.serveAll? rest (schedule.serve request).2 >>= _) = _
      rw [ih next]
      rfl

theorem slack_serveAll (requests : List (Request α)) (schedule : Schedule α) :
    (serveAll serve requests schedule).2.slack = schedule.slack := by
  induction requests generalizing schedule with
  | nil => rfl
  | cons request rest ih => exact (ih _).trans (slack_serve schedule request)

/-- Whatever a schedule that was empty at first is asked, it puts up with as many empty slots as in the
beginning, its marks and slots fit together, and none of its steps went amiss on the way. -/
theorem serveAll_sound (slack : Nat) (requests : List (Request α)) :
    let start : Schedule α := { slack }
    let done := serveAll serve requests start
    done.2.Sound ∧ done.2.slack = slack ∧ Schedule.serveAll? requests start = some done := by
  intro start done
  have represents := represents_empty (α := α) slack
  obtain ⟨cells, holds, _⟩ := (serveAll_represents requests represents).2
  exact ⟨holds.sound, slack_serveAll requests start, represents.serveAll? requests⟩

end WorldScripts.Schedule
