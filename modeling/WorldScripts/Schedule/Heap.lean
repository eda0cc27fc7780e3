/-!
A heap of marks. A mark tells when a slot becomes due and when it was filled; the heap gives out the
one that is due first and, of those due at the same time, the one that was filled first.
-/

namespace WorldScripts.Schedule

structure Mark where
  due : UInt64
  /-- How many slots had been filled before this one. -/
  stamp : Nat
  slot : Nat
  deriving DecidableEq, Repr

def Mark.before (a b : Mark) : Bool :=
  a.due < b.due || (a.due == b.due && a.stamp ≤ b.stamp)

/-- A leftist tree: the way down on the right is never the longer one. -/
inductive Heap where
  | empty
  | node (height : Nat) (mark : Mark) (left right : Heap)
  deriving Repr

namespace Heap

instance : Inhabited Heap := ⟨empty⟩

/-- The length of the way down on the right. -/
def height : Heap → Nat
  | empty => 0
  | node height .. => height

def size : Heap → Nat
  | empty => 0
  | node _ _ left right => left.size + right.size + 1

def toList : Heap → List Mark
  | empty => []
  | node _ mark left right => mark :: (left.toList ++ right.toList)

def join (mark : Mark) (a b : Heap) : Heap :=
  if b.height ≤ a.height then node (b.height + 1) mark a b else node (a.height + 1) mark b a

def merge : Heap → Heap → Heap
  | empty, b => b
  | a, empty => a
  | node h mark left right, node h' mark' left' right' =>
      if mark.before mark' then join mark left (merge right (node h' mark' left' right'))
      else join mark' left' (merge (node h mark left right) right')
  termination_by a b => a.size + b.size
  decreasing_by all_goals simp only [size]; omega

theorem size_join (mark : Mark) (a b : Heap) : (join mark a b).size = a.size + b.size + 1 := by
  unfold join
  split <;> simp only [size]
  omega

theorem size_merge (a b : Heap) : (merge a b).size = a.size + b.size := by
  fun_induction merge a b with
  | case1 => simp [size]
  | case2 => simp [size]
  | case3 h mark left right h' mark' left' right' first ih =>
      simp only [size_join, ih, size]; omega
  | case4 h mark left right h' mark' left' right' second ih =>
      simp only [size_join, ih, size]; omega

theorem toList_join (mark : Mark) (a b : Heap) :
    (join mark a b).toList.Perm (mark :: (a.toList ++ b.toList)) := by
  unfold join
  split
  · exact List.Perm.refl _
  · exact List.Perm.cons mark List.perm_append_comm

theorem toList_merge (a b : Heap) : (merge a b).toList.Perm (a.toList ++ b.toList) := by
  fun_induction merge a b with
  | case1 b => exact List.Perm.refl _
  | case2 a => simp [toList]
  | case3 h mark left right h' mark' left' right' first ih =>
      have under := ih.append_left left.toList
      rw [← List.append_assoc] at under
      exact (toList_join mark left _).trans (under.cons mark)
  | case4 h mark left right h' mark' left' right' second ih =>
      have under := (ih.append_left left'.toList).trans (List.perm_append_comm_assoc ..)
      exact (toList_join mark' left' _).trans ((under.cons mark').trans List.perm_middle.symm)

def push (heap : Heap) (mark : Mark) : Heap :=
  heap.merge (node 1 mark empty empty)

def top? : Heap → Option Mark
  | empty => none
  | node _ mark _ _ => some mark

def pop : Heap → Heap
  | empty => empty
  | node _ _ left right => left.merge right

theorem toList_push (heap : Heap) (mark : Mark) :
    (heap.push mark).toList.Perm (mark :: heap.toList) :=
  (toList_merge heap (node 1 mark empty empty)).trans List.perm_append_comm

theorem toList_pop {heap : Heap} {mark : Mark} (first : heap.top? = some mark) :
    heap.toList.Perm (mark :: heap.pop.toList) := by
  cases heap with
  | empty => simp [top?] at first
  | node h first' left right =>
      cases first
      exact (toList_merge left right).symm.cons mark

def ofList (marks : List Mark) : Heap :=
  marks.foldl push empty

theorem toList_foldl_push (marks : List Mark) (heap : Heap) :
    (marks.foldl push heap).toList.Perm (marks ++ heap.toList) := by
  induction marks generalizing heap with
  | nil => exact List.Perm.refl _
  | cons mark rest ih =>
      have pushed := (ih (heap.push mark)).trans ((toList_push heap mark).append_left rest)
      exact pushed.trans List.perm_middle

theorem toList_ofList (marks : List Mark) : (ofList marks).toList.Perm marks := by
  simpa [ofList, toList] using toList_foldl_push marks empty

def dropWhile (stale : Mark → Bool) : Heap → Heap
  | empty => empty
  | node h mark left right =>
      if stale mark then dropWhile stale (left.merge right) else node h mark left right
  termination_by heap => heap.size
  decreasing_by simp only [size_merge, size]; omega

theorem toList_dropWhile (stale : Mark → Bool) (heap : Heap) :
    ∃ removed, (∀ mark ∈ removed, stale mark = true) ∧
      heap.toList.Perm (removed ++ (heap.dropWhile stale).toList) := by
  fun_induction dropWhile stale heap with
  | case1 => exact ⟨[], by simp, List.Perm.refl _⟩
  | case2 h mark left right old ih =>
      obtain ⟨removed, allStale, kept⟩ := ih
      refine ⟨mark :: removed, ?_, ((toList_merge left right).symm.trans kept).cons mark⟩
      intro other member
      rcases List.mem_cons.mp member with same | later
      · subst other
        exact old
      · exact allStale other later
  | case3 h mark left right fresh => exact ⟨[], by simp, List.Perm.refl _⟩

end Heap

end WorldScripts.Schedule
