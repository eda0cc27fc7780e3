import WorldScripts.Proofs.Scripts.Grouping
import WorldScripts.Proofs.StableOrder
import WorldScripts.Waypoints

/-!
Which points make up a path. The points of a creature are put in the order of their numbers. Points with
one number stay in the order of the file, wherever in the file they stand, and all but the first of them
are left out. Of the escorts of a creature the last one counts.
-/

namespace WorldScripts.Waypoints

theorem dropRepeats_sublist (points : List PathPoint) : (dropRepeats points).Sublist points := by
  induction points with
  | nil => exact List.Sublist.refl _
  | cons point rest ih =>
      rw [dropRepeats]
      cases kept : dropRepeats rest with
      | nil => exact (List.nil_sublist rest).cons_cons point
      | cons next later =>
          rw [kept] at ih
          dsimp only
          split
          · exact ((List.sublist_cons_self next later).trans ih).cons_cons point
          · exact ih.cons_cons point

theorem find?_dropRepeats (points : List PathPoint) (number : UInt32) :
    (dropRepeats points).find? (·.number = number) = points.find? (·.number = number) := by
  induction points with
  | nil => rfl
  | cons point rest ih =>
      rw [dropRepeats]
      by_cases here : point.number = number
      · rw [List.find?_cons_of_pos (by simpa using here)]
        cases dropRepeats rest with
        | nil => simp [here]
        | cons next later =>
            dsimp only
            split <;> simp [here]
      · rw [List.find?_cons_of_neg (by simpa using here), ← ih]
        cases dropRepeats rest with
        | nil => simp [here]
        | cons next later =>
            dsimp only
            split
            · -- The point behind is left out. It has the same number, which is not the one in question.
              rename_i same
              simp [here, same]
            · simp [here]

theorem dropRepeats_ascending {points : List PathPoint}
    (ascending : points.Pairwise fun a b => a.number ≤ b.number) :
    (dropRepeats points).Pairwise fun a b => a.number < b.number := by
  induction ascending with
  | nil => exact .nil
  | @cons point rest above _ ih =>
      have above : ∀ other ∈ dropRepeats rest, point.number ≤ other.number := fun other kept =>
        above other ((dropRepeats_sublist rest).subset kept)
      rw [dropRepeats]
      cases kept : dropRepeats rest with
      | nil => exact List.pairwise_singleton _ _
      | cons next later =>
          rw [kept] at ih above
          obtain ⟨beyond, others⟩ := List.pairwise_cons.mp ih
          dsimp only
          split
          · rename_i same
            exact List.pairwise_cons.mpr ⟨fun other member => same ▸ beyond other member, others⟩
          · rename_i different
            have less : point.number < next.number :=
              UInt32.lt_of_le_of_ne (above next List.mem_cons_self) (Ne.symm different)
            refine List.pairwise_cons.mpr ⟨?_, ih⟩
            intro other member
            rcases List.mem_cons.mp member with rfl | member
            · exact less
            · exact UInt32.lt_trans less (beyond other member)

theorem ordered_stable (points : List PathPoint) :
    ∃ sorted, StablySorted (fun point => point.number.toNat) points sorted ∧
      ordered points = dropRepeats sorted :=
  ⟨_, stablySorted_mergeSort (fun point => point.number.toNat) points, rfl⟩

theorem ordered_ascending (points : List PathPoint) :
    (ordered points).Pairwise fun a b => a.number < b.number := by
  obtain ⟨sorted, stable, same⟩ := ordered_stable points
  rw [same]
  exact dropRepeats_ascending stable.ascending

theorem find?_ordered (points : List PathPoint) (number : UInt32) :
    (ordered points).find? (·.number = number) = points.find? (·.number = number) := by
  obtain ⟨sorted, stable, same⟩ := ordered_stable points
  have level : (fun point : PathPoint => decide (point.number = number)) =
      fun point => point.number.toNat == number.toNat := by
    funext point
    rw [Bool.eq_iff_iff, decide_eq_true_iff, beq_iff_eq, UInt32.toNat_inj]
  rw [same, find?_dropRepeats, level, ← List.head?_filter, ← List.head?_filter, stable.stable]

theorem find?_of_ascending {points : List PathPoint} {point : PathPoint}
    (ascending : points.Pairwise fun a b => a.number < b.number) (member : point ∈ points) :
    points.find? (·.number = point.number) = some point := by
  induction ascending with
  | nil => cases member
  | @cons first rest below _ ih =>
      rcases List.mem_cons.mp member with rfl | member
      · simp
      · have different : first.number ≠ point.number := UInt32.ne_of_lt (below point member)
        rw [List.find?_cons_of_neg (by simpa using different)]
        exact ih member

theorem mem_ordered {points : List PathPoint} {point : PathPoint} :
    point ∈ ordered points ↔ points.find? (·.number = point.number) = some point := by
  rw [← find?_ordered]
  exact ⟨find?_of_ascending (ordered_ascending points), List.mem_of_find?_eq_some⟩

theorem path_ofFile (file : WaypointFile) (creature : UInt32) :
    (ofFile file).value.path creature = ordered (file.points.filter (·.creature = creature)) := by
  rw [← OrderedMap.getD_find?_group PathPoint.creature]
  show (((OrderedMap.group PathPoint.creature file.points).mapValues ordered).find? creature).getD [] = _
  rw [OrderedMap.find?_mapValues]
  cases (OrderedMap.group PathPoint.creature file.points).find? creature with
  | none => simp [ordered, dropRepeats]
  | some points => rfl

theorem pathCount_ofFile (file : WaypointFile) :
    (ofFile file).value.pathCount = (file.points.map PathPoint.creature).toFinset.card := by
  rw [← OrderedMap.size_group PathPoint.creature]
  exact List.length_map _

theorem find?_keepEscorts (kept : OrderedMap UInt32 Escort) (escorts : List Escort)
    (creature : UInt32) :
    (keepEscorts kept escorts).value.find? creature =
      (escorts.filter (·.creature = creature)).getLast?.or (kept.find? creature) := by
  induction escorts generalizing kept with
  | nil => rfl
  | cons escort rest ih =>
      have later : (keepEscorts kept (escort :: rest)).value =
          (keepEscorts (kept.insert escort.creature escort) rest).value := by
        rw [keepEscorts]
        split <;> rfl
      rw [later, ih, OrderedMap.find?_insert_ite]
      by_cases here : escort.creature = creature
      · rw [if_pos here.symm, List.filter_cons_of_pos (by simpa using here), List.getLast?_cons]
        cases (rest.filter (·.creature = creature)).getLast? <;> rfl
      · rw [if_neg (Ne.symm here), List.filter_cons_of_neg (by simpa using here)]

/-- The path of a creature ascends strictly in its numbers and is made of the first point that the file
has for the creature with each number. There are as many paths as creatures with points. The escort of a
creature is the last one that the file has for it. -/
theorem ofFile_paths (file : WaypointFile) :
    let waypoints := (ofFile file).value
    (∀ creature,
      ((waypoints.path creature).Pairwise fun a b => a.number < b.number) ∧
        ∀ point, point ∈ waypoints.path creature ↔
          file.points.find? (fun other =>
            other.creature = creature ∧ other.number = point.number) = some point) ∧
      waypoints.pathCount = (file.points.map PathPoint.creature).toFinset.card ∧
      ∀ creature, waypoints.escort? creature =
        (file.escorts.filter (·.creature = creature)).getLast? := by
  refine ⟨fun creature => ?_, pathCount_ofFile file, fun creature => ?_⟩
  · rw [path_ofFile]
    refine ⟨ordered_ascending _, fun point => ?_⟩
    rw [mem_ordered, List.find?_filter]
    simp only [Bool.decide_and, Bool.decide_eq_true]
  · refine (find?_keepEscorts .empty file.escorts creature).trans ?_
    exact Option.or_none

end WorldScripts.Waypoints
