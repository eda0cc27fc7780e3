/-!
An agenda is a schedule without any machinery: the values that are pending, each with the time it is
due, in the order in which they were added.
-/

namespace WorldScripts

abbrev Agenda (α : Type) := List (UInt64 × α)

namespace Agenda

variable {α : Type}

/-- No entry is due earlier. -/
def isLeast (agenda : Agenda α) (entry : UInt64 × α) : Bool :=
  agenda.all fun other => entry.1 ≤ other.1

/-- Takes out the entry that is due first and, of those due at the same time, was added first, if it
is due by now. -/
def popDue (agenda : Agenda α) (now : UInt64) : Option (UInt64 × α) × Agenda α :=
  match agenda.find? agenda.isLeast with
  | none => (none, agenda)
  | some first =>
      if now < first.1 then (none, agenda) else (some first, agenda.eraseP agenda.isLeast)

def cancelWhere (agenda : Agenda α) (cancelled : α → Bool) : List α × Agenda α :=
  ((agenda.map Prod.snd).filter cancelled, agenda.filter fun entry => !cancelled entry.2)

def nextDue? (agenda : Agenda α) : Option UInt64 :=
  (agenda.map Prod.fst).min?

/-- What an agenda looks like around the entry that is taken out first: all that was added before is
due later, and nothing that was added after is due earlier. -/
structure Leads (before : Agenda α) (first : UInt64 × α) (after : Agenda α) : Prop where
  before : ∀ entry ∈ before, first.1 < entry.1
  after : ∀ entry ∈ after, first.1 ≤ entry.1

section Leading

variable {before after : Agenda α} {first : UInt64 × α}

theorem Leads.least (leads : Leads before first after) :
    ∀ entry ∈ before ++ first :: after, first.1 ≤ entry.1 := by
  intro entry member
  rcases List.mem_append.mp member with earlier | later
  · exact UInt64.le_of_lt (leads.before entry earlier)
  · rcases List.mem_cons.mp later with same | later
    · subst entry
      exact UInt64.le_refl _
    · exact leads.after entry later

theorem Leads.isLeast (leads : Leads before first after) :
    Agenda.isLeast (before ++ first :: after) first = true := by
  simpa [Agenda.isLeast, -List.all_append] using leads.least

theorem Leads.not_isLeast (leads : Leads before first after) {entry : UInt64 × α}
    (earlier : entry ∈ before) :
    ¬ Agenda.isLeast (before ++ first :: after) entry = true := by
  intro least
  have bound := List.all_eq_true.mp least first (by simp)
  exact UInt64.not_le.mpr (leads.before entry earlier) (of_decide_eq_true bound)

theorem Leads.find? (leads : Leads before first after) :
    (before ++ first :: after).find? (Agenda.isLeast (before ++ first :: after)) =
      some first := by
  rw [List.find?_append, List.find?_eq_none.mpr fun entry => leads.not_isLeast,
    List.find?_cons_of_pos leads.isLeast]
  rfl

theorem Leads.filter (leads : Leads before first after) (kept : UInt64 × α → Bool) :
    Leads (before.filter kept) first (after.filter kept) := by
  constructor
  · intro entry member
    exact leads.before entry (List.mem_filter.mp member).1
  · intro entry member
    exact leads.after entry (List.mem_filter.mp member).1

theorem Leads.popDue (leads : Leads before first after) (now : UInt64) :
    Agenda.popDue (before ++ first :: after) now =
      if now < first.1 then (none, before ++ first :: after)
      else (some first, before ++ after) := by
  unfold Agenda.popDue
  rw [leads.find?]
  simp only
  rw [List.eraseP_append_right _ fun entry => leads.not_isLeast,
    List.eraseP_cons_of_pos leads.isLeast]

theorem Leads.nextDue? (leads : Leads before first after) :
    Agenda.nextDue? (before ++ first :: after) = some first.1 := by
  refine List.min?_eq_some_iff.mpr ⟨List.mem_map.mpr ⟨first, by simp, rfl⟩, ?_⟩
  intro due member
  obtain ⟨entry, inside, rfl⟩ := List.mem_map.mp member
  exact leads.least entry inside

end Leading

theorem exists_leads {agenda : Agenda α} (filled : agenda ≠ []) :
    ∃ before first after, agenda = before ++ first :: after ∧ Leads before first after := by
  induction agenda with
  | nil => exact absurd rfl filled
  | cons entry rest ih =>
      by_cases empty : rest = []
      · subst rest
        exact ⟨[], entry, [], rfl, by simp, by simp⟩
      · obtain ⟨before, first, after, rfl, leads⟩ := ih empty
        -- What leads the rest leads all, unless the new entry is due no later.
        by_cases later : first.1 < entry.1
        · refine ⟨entry :: before, first, after, rfl, ?_, leads.after⟩
          intro other member
          rcases List.mem_cons.mp member with same | member
          · subst other
            exact later
          · exact leads.before other member
        · refine ⟨[], entry, before ++ first :: after, rfl, by simp, ?_⟩
          intro other member
          exact UInt64.le_trans (UInt64.not_lt.mp later) (leads.least other member)

end Agenda

end WorldScripts
