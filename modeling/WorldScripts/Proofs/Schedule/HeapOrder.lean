import WorldScripts.Schedule.Heap

/-!
The order of a heap of marks. Every tree keeps the mark that comes first on top, whatever is merged,
so the top is a mark that no other one comes before.
-/

namespace WorldScripts.Schedule

theorem Mark.before_iff (a b : Mark) :
    a.before b = true ↔ a.due < b.due ∨ (a.due = b.due ∧ a.stamp ≤ b.stamp) := by
  simp [Mark.before]

theorem Mark.before_or_before (a b : Mark) : a.before b = true ∨ b.before a = true := by
  simp only [Mark.before_iff, UInt64.lt_iff_toNat_lt, ← UInt64.toNat_inj]
  omega

theorem Mark.before_trans {a b c : Mark} (ab : a.before b = true) (bc : b.before c = true) :
    a.before c = true := by
  simp only [Mark.before_iff, UInt64.lt_iff_toNat_lt, ← UInt64.toNat_inj] at *
  omega

namespace Heap

/-- Each mark comes before all marks under it. -/
def Ordered : Heap → Prop
  | empty => True
  | node _ mark left right =>
      (∀ other ∈ left.toList ++ right.toList, mark.before other = true) ∧
        left.Ordered ∧ right.Ordered

theorem ordered_join {mark : Mark} {a b : Heap}
    (first : ∀ other ∈ a.toList ++ b.toList, mark.before other = true)
    (left : a.Ordered) (right : b.Ordered) : (join mark a b).Ordered := by
  unfold join
  split
  · exact ⟨first, left, right⟩
  · refine ⟨?_, right, left⟩
    intro other member
    exact first other (List.perm_append_comm.mem_iff.mp member)

theorem ordered_merge {a b : Heap} (left : a.Ordered) (right : b.Ordered) :
    (merge a b).Ordered := by
  -- The top of one heap comes out on top, over its own lower marks and over all of the other heap.
  fun_induction merge a b with
  | case1 b => exact right
  | case2 a => exact left
  | case3 h mark under under' h' mark' other other' first ih =>
      refine ordered_join ?_ left.2.1 (ih left.2.2 right)
      intro lower member
      have inside := ((toList_merge under' (node h' mark' other other')).append_left
        under.toList).mem_iff.mp member
      simp only [List.mem_append] at inside
      rcases inside with here | here | there
      · exact left.1 lower (List.mem_append_left _ here)
      · exact left.1 lower (List.mem_append_right _ here)
      · rcases List.mem_cons.mp there with top | below
        · subst lower
          exact first
        · exact Mark.before_trans first (right.1 lower below)
  | case4 h mark under under' h' mark' other other' second ih =>
      have first : mark'.before mark = true :=
        (Mark.before_or_before mark mark').resolve_left second
      refine ordered_join ?_ right.2.1 (ih left right.2.2)
      intro lower member
      have inside := ((toList_merge (node h mark under under') other').append_left
        other.toList).mem_iff.mp member
      simp only [List.mem_append] at inside
      rcases inside with here | there | here
      · exact right.1 lower (List.mem_append_left _ here)
      · rcases List.mem_cons.mp there with top | below
        · subst lower
          exact first
        · exact Mark.before_trans first (left.1 lower below)
      · exact right.1 lower (List.mem_append_right _ here)

theorem ordered_push {heap : Heap} (mark : Mark) (ordered : heap.Ordered) :
    (heap.push mark).Ordered :=
  ordered_merge ordered ⟨by simp [toList], trivial, trivial⟩

theorem ordered_pop {heap : Heap} (ordered : heap.Ordered) : heap.pop.Ordered := by
  cases heap with
  | empty => trivial
  | node h mark left right => exact ordered_merge ordered.2.1 ordered.2.2

theorem ordered_foldl_push (marks : List Mark) {heap : Heap} (ordered : heap.Ordered) :
    (marks.foldl push heap).Ordered := by
  induction marks generalizing heap with
  | nil => exact ordered
  | cons mark rest ih => exact ih (ordered_push mark ordered)

theorem ordered_ofList (marks : List Mark) : (ofList marks).Ordered :=
  ordered_foldl_push marks trivial

theorem ordered_dropWhile (stale : Mark → Bool) {heap : Heap} (ordered : heap.Ordered) :
    (heap.dropWhile stale).Ordered := by
  fun_induction dropWhile stale heap with
  | case1 => trivial
  | case2 h mark left right old ih => exact ih (ordered_merge ordered.2.1 ordered.2.2)
  | case3 h mark left right fresh => exact ordered

theorem top?_eq_none {heap : Heap} : heap.top? = none ↔ heap.toList = [] := by
  cases heap <;> simp [top?, toList]

theorem top?_mem {heap : Heap} {mark : Mark} (first : heap.top? = some mark) :
    mark ∈ heap.toList :=
  (toList_pop first).mem_iff.mpr List.mem_cons_self

theorem top?_merge {a b : Heap} {mark : Mark} (first : (a.merge b).top? = some mark) :
    a.top? = some mark ∨ b.top? = some mark := by
  have top?_join (mark : Mark) (a b : Heap) : (join mark a b).top? = some mark := by
    unfold join
    split <;> rfl
  fun_induction merge a b with
  | case1 b => exact Or.inr first
  | case2 a => exact Or.inl first
  | case3 => exact Or.inl (by rwa [top?_join] at first)
  | case4 => exact Or.inr (by rwa [top?_join] at first)

theorem top?_before {heap : Heap} {mark : Mark} (ordered : heap.Ordered)
    (first : heap.top? = some mark) {other : Mark} (member : other ∈ heap.toList) :
    mark.before other = true := by
  cases heap with
  | empty => simp [top?] at first
  | node h mark' left right =>
      cases first
      rcases List.mem_cons.mp member with same | below
      · subst other
        exact (Mark.before_or_before mark mark).elim id id
      · exact ordered.1 other below

theorem top?_dropWhile {stale : Mark → Bool} {heap : Heap} {mark : Mark}
    (first : (heap.dropWhile stale).top? = some mark) : stale mark = false := by
  fun_induction dropWhile stale heap with
  | case1 => simp [top?] at first
  | case2 h mark' left right old ih => exact ih first
  | case3 h mark' left right fresh =>
      cases first
      simpa using fresh

end Heap

end WorldScripts.Schedule
