import WorldScripts.Proofs.Schedule.Cells

/-!
A schedule answers like its agenda, whatever it is asked and however many empty slots it puts up
with. On the agenda it is plain that no value is lost and that none is given out twice.
-/

namespace WorldScripts

variable {α : Type}

namespace Schedule

/-- The schedule is in order and holds what the agenda says. -/
def Represents (schedule : Schedule α) (agenda : Agenda α) : Prop :=
  ∃ cells, Holds schedule cells ∧ entries cells = agenda

theorem represents_empty (slack : Nat) : Represents ({ slack } : Schedule α) [] :=
  ⟨[], holds_empty slack, rfl⟩

/-- The mark of a slot that holds the value tells the time. -/
def FiledUnder (schedule : Schedule α) (due : UInt64) (value : α) : Prop :=
  ∃ mark ∈ schedule.heap.toList, mark.due = due ∧ schedule.slots[mark.slot]? = some (some value)

section Operations

variable {schedule : Schedule α} {agenda : Agenda α}

theorem Represents.filedUnder_iff (represents : Represents schedule agenda) (due : UInt64)
    (value : α) : FiledUnder schedule due value ↔ (due, value) ∈ agenda := by
  obtain ⟨cells, holds, rfl⟩ := represents
  rw [mem_entries]
  constructor
  · rintro ⟨mark, member, rfl, held⟩
    obtain ⟨cell, here, same⟩ := holds.marked mark member
    rw [holds.slot_value here] at held
    exact ⟨cell, List.mem_of_getElem? here, by rw [same]; rfl, Option.some.inj held⟩
  · rintro ⟨cell, member, rfl, held⟩
    obtain ⟨slot, here⟩ := List.mem_iff_getElem?.mp member
    refine ⟨cell.mark slot, holds.marks slot cell here (by simp [Cell.isLive, held]), rfl, ?_⟩
    rw [← held]
    exact holds.slot_value here

theorem Represents.add (represents : Represents schedule agenda) (due : UInt64) (value : α) :
    Represents (schedule.add due value) (agenda ++ [(due, value)]) := by
  obtain ⟨cells, holds, rfl⟩ := represents
  exact ⟨_, holds.add due value, entries_add cells due schedule.nextStamp value⟩

theorem Represents.popDue (represents : Represents schedule agenda) (now : UInt64) :
    (schedule.popDue now).1 = (agenda.popDue now).1 ∧
      Represents (schedule.popDue now).2 (agenda.popDue now).2 := by
  obtain ⟨cells, holds, rfl⟩ := represents
  obtain ⟨left, after, same⟩ := holds.popDue now
  rw [same]
  exact ⟨rfl, left, after, rfl⟩

-- A schedule that gives out nothing is left as it was.
theorem Represents.popDue_none (represents : Represents schedule agenda) {now : UInt64}
    (nothing : (schedule.popDue now).1 = none) : (schedule.popDue now).2 = schedule := by
  obtain ⟨cells, holds, rfl⟩ := represents
  unfold Schedule.popDue at nothing ⊢
  cases first : schedule.heap.top? with
  | none => rfl
  | some mark =>
      obtain ⟨before, cell, after, value, rfl, rfl, _, inside⟩ := holds.exists_top first
      by_cases early : now < cell.due
      · simp [Cell.mark, early]
      · simp [first, Cell.mark, early, inside] at nothing

theorem Represents.popDue_late (represents : Represents schedule agenda) {now : UInt64}
    (late : ∀ entry ∈ agenda, now < entry.1) : schedule.popDue now = (none, schedule) := by
  have nothing : (schedule.popDue now).1 = none := by
    rw [(represents.popDue now).1]
    by_cases empty : agenda = []
    · subst agenda
      rfl
    · obtain ⟨before, first, after, rfl, leads⟩ := Agenda.exists_leads empty
      rw [leads.popDue, if_pos (late first (by simp))]
  exact Prod.ext nothing (represents.popDue_none nothing)

theorem Represents.popDue_leads {before after : Agenda α} {first : UInt64 × α}
    (represents : Represents schedule (before ++ first :: after))
    (leads : Agenda.Leads before first after) {now : UInt64} (reached : first.1 ≤ now) :
    ∃ rest, schedule.popDue now = (some first, rest) ∧ Represents rest (before ++ after) := by
  obtain ⟨same, left⟩ := represents.popDue now
  rw [leads.popDue, if_neg (UInt64.not_lt.mpr reached)] at same left
  exact ⟨_, Prod.ext same rfl, left⟩

theorem Represents.cancelWhere (represents : Represents schedule agenda)
    (cancelled : α → Bool) :
    (schedule.cancelWhere cancelled).1 = (agenda.cancelWhere cancelled).1 ∧
      Represents (schedule.cancelWhere cancelled).2 (agenda.cancelWhere cancelled).2 := by
  obtain ⟨cells, holds, rfl⟩ := represents
  obtain ⟨left, after, same⟩ := holds.cancelWhere cancelled
  rw [same]
  exact ⟨rfl, left, after, rfl⟩

theorem Represents.pending (represents : Represents schedule agenda) :
    schedule.pending = agenda.map Prod.snd := by
  obtain ⟨cells, holds, rfl⟩ := represents
  exact holds.pending

theorem Represents.nextDue? (represents : Represents schedule agenda) :
    schedule.nextDue? = agenda.nextDue? := by
  obtain ⟨cells, holds, rfl⟩ := represents
  exact holds.nextDue?

theorem Represents.size (represents : Represents schedule agenda) :
    schedule.size = agenda.length := by
  obtain ⟨cells, holds, rfl⟩ := represents
  exact holds.size

theorem Represents.isEmpty (represents : Represents schedule agenda) :
    schedule.isEmpty = agenda.isEmpty := by
  have size := represents.size
  cases agenda with
  | nil => simpa [Schedule.isEmpty, Schedule.size] using size
  | cons entry rest =>
      simp only [Schedule.size, List.length_cons] at size
      simp [Schedule.isEmpty, size]

end Operations

end Schedule

inductive Request (α : Type) where
  | add (due : UInt64) (value : α)
  | popDue (now : UInt64)
  | cancelWhere (cancelled : α → Bool)
  | nextDue
  | pending
  | size
  | isEmpty

/-- What is answered; a value that is added is taken without a word. -/
inductive Answer (α : Type) where
  | taken
  | popped (first : Option (UInt64 × α))
  | cancelled (values : List α)
  | nextDue (due : Option UInt64)
  | pending (values : List α)
  | size (count : Nat)
  | isEmpty (empty : Bool)

def Schedule.serve (schedule : Schedule α) : Request α → Answer α × Schedule α
  | .add due value => (.taken, schedule.add due value)
  | .popDue now => (.popped (schedule.popDue now).1, (schedule.popDue now).2)
  | .cancelWhere cancelled =>
      (.cancelled (schedule.cancelWhere cancelled).1, (schedule.cancelWhere cancelled).2)
  | .nextDue => (.nextDue schedule.nextDue?, schedule)
  | .pending => (.pending schedule.pending, schedule)
  | .size => (.size schedule.size, schedule)
  | .isEmpty => (.isEmpty schedule.isEmpty, schedule)

def Agenda.serve (agenda : Agenda α) : Request α → Answer α × Agenda α
  | .add due value => (.taken, agenda ++ [(due, value)])
  | .popDue now => (.popped (agenda.popDue now).1, (agenda.popDue now).2)
  | .cancelWhere cancelled =>
      (.cancelled (agenda.cancelWhere cancelled).1, (agenda.cancelWhere cancelled).2)
  | .nextDue => (.nextDue agenda.nextDue?, agenda)
  | .pending => (.pending (agenda.map Prod.snd), agenda)
  | .size => (.size agenda.length, agenda)
  | .isEmpty => (.isEmpty agenda.isEmpty, agenda)

def serveAll {σ : Type} (serve : σ → Request α → Answer α × σ) :
    List (Request α) → σ → List (Answer α) × σ
  | [], state => ([], state)
  | request :: rest, state =>
      let (answer, state) := serve state request
      let (answers, state) := serveAll serve rest state
      (answer :: answers, state)

theorem serve_represents {schedule : Schedule α} {agenda : Agenda α}
    (represents : schedule.Represents agenda) (request : Request α) :
    (schedule.serve request).1 = (agenda.serve request).1 ∧
      (schedule.serve request).2.Represents (agenda.serve request).2 := by
  cases request with
  | add due value => exact ⟨rfl, represents.add due value⟩
  | popDue now =>
      exact ⟨congrArg Answer.popped (represents.popDue now).1, (represents.popDue now).2⟩
  | cancelWhere cancelled =>
      exact ⟨congrArg Answer.cancelled (represents.cancelWhere cancelled).1,
        (represents.cancelWhere cancelled).2⟩
  | nextDue => exact ⟨congrArg Answer.nextDue represents.nextDue?, represents⟩
  | pending => exact ⟨congrArg Answer.pending represents.pending, represents⟩
  | size => exact ⟨congrArg Answer.size represents.size, represents⟩
  | isEmpty => exact ⟨congrArg Answer.isEmpty represents.isEmpty, represents⟩

theorem serveAll_represents (requests : List (Request α)) {schedule : Schedule α}
    {agenda : Agenda α} (represents : schedule.Represents agenda) :
    (serveAll Schedule.serve requests schedule).1 = (serveAll Agenda.serve requests agenda).1 ∧
      (serveAll Schedule.serve requests schedule).2.Represents
        (serveAll Agenda.serve requests agenda).2 := by
  induction requests generalizing schedule agenda with
  | nil => exact ⟨rfl, represents⟩
  | cons request rest ih =>
      obtain ⟨answer, next⟩ := serve_represents represents request
      obtain ⟨answers, last⟩ := ih next
      simp only [serveAll]
      exact ⟨by rw [answer, answers], last⟩

/-! Nothing is lost or given out twice. -/

def Request.added : Request α → List α
  | .add _ value => [value]
  | _ => []

/-- The values that have left with an answer. -/
def Answer.handedOut : Answer α → List α
  | .popped (some (_, value)) => [value]
  | .cancelled values => values
  | _ => []

theorem agenda_serve_conserves (agenda : Agenda α) (request : Request α) :
    ((agenda.serve request).1.handedOut ++ (agenda.serve request).2.map Prod.snd).Perm
      (agenda.map Prod.snd ++ request.added) := by
  cases request with
  | add due value => simp [Agenda.serve, Answer.handedOut, Request.added]
  | popDue now =>
      by_cases empty : agenda = []
      · subst agenda
        exact List.Perm.refl _
      · obtain ⟨before, first, after, rfl, leads⟩ := Agenda.exists_leads empty
        simp only [Agenda.serve, leads.popDue]
        by_cases early : now < first.1
        · simp [early, Answer.handedOut, Request.added]
        · simpa [early, Answer.handedOut, Request.added] using List.perm_middle.symm
  | cancelWhere cancelled =>
      have parts := (List.filter_append_perm (fun entry => cancelled entry.2) agenda).map Prod.snd
      simpa [Agenda.serve, Agenda.cancelWhere, Answer.handedOut, Request.added, List.filter_map,
        Function.comp_def] using parts
  | nextDue => simp [Agenda.serve, Answer.handedOut, Request.added]
  | pending => simp [Agenda.serve, Answer.handedOut, Request.added]
  | size => simp [Agenda.serve, Answer.handedOut, Request.added]
  | isEmpty => simp [Agenda.serve, Answer.handedOut, Request.added]

theorem agenda_serveAll_conserves (requests : List (Request α)) (agenda : Agenda α) :
    ((serveAll Agenda.serve requests agenda).1.flatMap Answer.handedOut ++
        (serveAll Agenda.serve requests agenda).2.map Prod.snd).Perm
      (agenda.map Prod.snd ++ requests.flatMap Request.added) := by
  induction requests generalizing agenda with
  | nil => simp [serveAll]
  | cons request rest ih =>
      simp only [serveAll, List.flatMap_cons, List.append_assoc]
      refine ((ih _).append_left _).trans ?_
      rw [← List.append_assoc, ← List.append_assoc]
      exact (agenda_serve_conserves agenda request).append_right _

/-- Whatever a schedule is asked, it answers like its agenda, and in the end holds the same values in
the same order. A schedule that has nothing to give out is left as it was. All values that were
added, and each as often as it was added, are the ones that were given out or cancelled and the ones
that are still pending. -/
theorem schedule_serves_agenda (slack : Nat) (requests : List (Request α)) :
    let schedule := serveAll Schedule.serve requests ({ slack } : Schedule α)
    let agenda := serveAll Agenda.serve requests []
    schedule.1 = agenda.1 ∧
      schedule.2.pending = agenda.2.map Prod.snd ∧
      (∀ now, (schedule.2.popDue now).1 = none → (schedule.2.popDue now).2 = schedule.2) ∧
      (schedule.1.flatMap Answer.handedOut ++ schedule.2.pending).Perm
        (requests.flatMap Request.added) := by
  obtain ⟨answers, represents⟩ := serveAll_represents requests (Schedule.represents_empty slack)
  refine ⟨answers, represents.pending, fun now => represents.popDue_none, ?_⟩
  rw [answers, represents.pending]
  exact agenda_serveAll_conserves requests []

end WorldScripts
