/-!
Stable orders. A list is in the stable order of a key if the keys ascend and things with one key
stand as they stood before; there is exactly one such order.
-/

namespace WorldScripts

variable {α : Type}

structure StablySorted (key : α → Nat) (list sorted : List α) : Prop where
  perm : sorted.Perm list
  ascending : sorted.Pairwise fun a b => key a ≤ key b
  stable : ∀ value, (sorted.filter fun item => key item == value) =
    list.filter fun item => key item == value

theorem stablySorted_mergeSort (key : α → Nat) (list : List α) :
    StablySorted key list (list.mergeSort fun a b => key a ≤ key b) := by
  have trans : ∀ a b c : α, decide (key a ≤ key b) = true → decide (key b ≤ key c) = true →
      decide (key a ≤ key c) = true := by
    simp only [decide_eq_true_eq]
    omega
  have total : ∀ a b : α, (decide (key a ≤ key b) || decide (key b ≤ key a)) = true := by
    simp only [Bool.or_eq_true, decide_eq_true_eq]
    omega
  have perm := List.mergeSort_perm list fun a b => decide (key a ≤ key b)
  refine ⟨perm, ?_, ?_⟩
  · exact (List.pairwise_mergeSort trans total list).imp of_decide_eq_true
  · intro value
    -- The things with one key are in ascending order already, so that sorting keeps them in line.
    have level : (list.filter fun item => key item == value).Pairwise
        fun a b => decide (key a ≤ key b) = true := by
      refine List.pairwise_of_forall_mem_list ?_
      intro a first b second
      have sameFirst := beq_iff_eq.mp (List.mem_filter.mp first).2
      have sameSecond := beq_iff_eq.mp (List.mem_filter.mp second).2
      rw [sameFirst, sameSecond]
      exact decide_eq_true (Nat.le_refl value)
    have kept := (List.sublist_mergeSort trans total level List.filter_sublist).filter
      fun item => key item == value
    rw [List.filter_filter] at kept
    simp only [Bool.and_self] at kept
    exact (kept.eq_of_length_le (Nat.le_of_eq (perm.filter _).length_eq)).symm

theorem StablySorted.unique {key : α → Nat} {list a b : List α}
    (left : StablySorted key list a) (right : StablySorted key list b) : a = b := by
  induction a generalizing list b with
  | nil =>
      have empty := left.perm.symm.eq_nil
      rw [empty] at right
      exact right.perm.eq_nil.symm
  | cons first rest ih =>
      cases b with
      | nil =>
          have empty := right.perm.symm.eq_nil
          rw [empty] at left
          exact left.perm.eq_nil
      | cons first' rest' =>
          have perm := left.perm.trans right.perm.symm
          -- Both begin with a thing of the least key, and both with the same one of these.
          have leastKey : key first = key first' := by
            have below : key first ≤ key first' := by
              rcases List.mem_cons.mp (perm.mem_iff.mpr List.mem_cons_self) with same | later
              · exact Nat.le_of_eq (congrArg key same.symm)
              · exact (List.pairwise_cons.mp left.ascending).1 first' later
            have above : key first' ≤ key first := by
              rcases List.mem_cons.mp (perm.mem_iff.mp List.mem_cons_self) with same | later
              · exact Nat.le_of_eq (congrArg key same.symm)
              · exact (List.pairwise_cons.mp right.ascending).1 first later
            omega
          have sameFilter (value : Nat) :
              ((first :: rest).filter fun item => key item == value) =
                (first' :: rest').filter fun item => key item == value :=
            (left.stable value).trans (right.stable value).symm
          have sameFirst : first = first' := by
            have heads := sameFilter (key first)
            simp only [List.filter_cons, leastKey, BEq.rfl, ↓reduceIte] at heads
            exact (List.cons.inj heads).1
          subst first'
          have sameRest : rest = rest' := by
            refine ih ⟨List.Perm.refl rest, (List.pairwise_cons.mp left.ascending).2,
              fun _ => rfl⟩ ⟨(perm.cons_inv).symm, (List.pairwise_cons.mp right.ascending).2, ?_⟩
            intro value
            have filtered := sameFilter value
            by_cases here : key first == value
            · simpa [here] using filtered.symm
            · simpa [here] using filtered.symm
          rw [sameRest]

theorem StablySorted.insert {key : α → Nat} {before after sorted : List α} {first : α}
    (rest : StablySorted key (before ++ after) sorted)
    (earlier : ∀ item ∈ before, key first < key item)
    (later : ∀ item ∈ after, key first ≤ key item) :
    StablySorted key (before ++ first :: after) (first :: sorted) := by
  refine ⟨(rest.perm.cons first).trans List.perm_middle.symm, ?_, ?_⟩
  · refine List.pairwise_cons.mpr ⟨?_, rest.ascending⟩
    intro item member
    rcases List.mem_append.mp (rest.perm.mem_iff.mp member) with inBefore | inAfter
    · exact Nat.le_of_lt (earlier item inBefore)
    · exact later item inAfter
  · intro value
    by_cases here : key first = value
    · -- Nothing that stood before it has its key.
      have none : (before.filter fun item => key item == value) = [] := by
        refine List.filter_eq_nil_iff.mpr fun item member same => ?_
        have := earlier item member
        have := beq_iff_eq.mp same
        omega
      have others := rest.stable value
      rw [List.filter_append, none, List.nil_append] at others
      rw [List.filter_append, none, List.nil_append]
      simp [here, others]
    · have others := rest.stable value
      rw [List.filter_append] at others ⊢
      simpa [here] using others

theorem StablySorted.map {β : Type} {key : α → Nat} {key' : β → Nat} {list sorted : List β}
    (f : β → α) (same : ∀ item ∈ list, key (f item) = key' item)
    (held : StablySorted key' list sorted) : StablySorted key (list.map f) (sorted.map f) := by
  have sameSorted : ∀ item ∈ sorted, key (f item) = key' item :=
    fun item member => same item (held.perm.mem_iff.mp member)
  refine ⟨held.perm.map f, ?_, ?_⟩
  · rw [List.pairwise_map]
    refine held.ascending.imp_of_mem ?_
    intro a b first second le
    rw [sameSorted a first, sameSorted b second]
    exact le
  · intro value
    have onSorted : (sorted.filter fun item => key (f item) == value) =
        sorted.filter fun item => key' item == value :=
      List.filter_congr fun item member => by rw [sameSorted item member]
    have onList : (list.filter fun item => key (f item) == value) =
        list.filter fun item => key' item == value :=
      List.filter_congr fun item member => by rw [same item member]
    simp only [List.filter_map, Function.comp_def, onSorted, onList, held.stable value]

end WorldScripts
