import Mathlib.Data.Finset.Card
import Mathlib.Data.List.Basic
import WorldScripts.Registry

/-!
The ids of names. Whatever is enrolled in a registry mentions a name, and the names of a registry are those
that were mentioned, without repetition and in the order in which they first appeared, behind the empty one.
The map from names to ids stays inverse to the list of names along every way of enrolling.
-/

namespace WorldScripts

-- What a registry can be told.
inductive Enrolment where
  | mention (name : String)
  | areaTrigger (binding : ScriptBinding)
  | event (binding : ScriptBinding)
  | register (name : String) (hooks : Hooks)
  | bindInstance (map : UInt32) (name : String)

def Enrolment.script : Enrolment → String
  | .mention name => name
  | .areaTrigger binding => binding.script
  | .event binding => binding.script
  | .register name _ => name
  | .bindInstance _ name => name

-- What is stored, in the order in which it is enrolled.
def ScriptNames.enrolments (names : ScriptNames) : List Enrolment :=
  names.names.map .mention ++ names.areaTriggers.map .areaTrigger ++ names.events.map .event

section

variable {α : Type} [BEq α] [LawfulBEq α] (values : List α) (value : α)

theorem eraseDups_concat : (values ++ [value]).eraseDups =
    if value ∈ values then values.eraseDups else values.eraseDups ++ [value] := by
  rw [List.eraseDups_append]
  by_cases known : value ∈ values <;> simp [List.removeAll, known, List.eraseDups_cons]

theorem idxOf_concat {values : List α} {value : α} (fresh : value ∉ values) :
    (values ++ [value]).idxOf value = values.length := by
  rw [List.idxOf_append_of_notMem fresh, List.idxOf_cons_self, Nat.add_zero]

-- Without repetition, the values stand in the order in which they first appear.
theorem eraseDups_inOrder :
    values.eraseDups.Pairwise fun a b => values.idxOf a < values.idxOf b := by
  induction values using List.reverseRecOn with
  | nil => simp
  | append_singleton values value ih =>
      have before {a} (member : a ∈ values.eraseDups) :
          (values ++ [value]).idxOf a = values.idxOf a :=
        List.idxOf_append_of_mem (List.mem_eraseDups.mp member)
      have kept : values.eraseDups.Pairwise fun a b =>
          (values ++ [value]).idxOf a < (values ++ [value]).idxOf b := by
        refine ih.imp_of_mem fun member member' less => ?_
        rwa [before member, before member']
      rw [eraseDups_concat]
      split
      · exact kept
      · rename_i fresh
        refine List.pairwise_append.mpr ⟨kept, List.pairwise_singleton _ _, ?_⟩
        intro a member b last
        obtain rfl := List.mem_singleton.mp last
        -- A value that is new comes behind all that were there.
        rw [before member, idxOf_concat fresh]
        exact List.idxOf_lt_length_iff.mpr (List.mem_eraseDups.mp member)

theorem nodup_eraseDups : values.eraseDups.Nodup := by
  refine (eraseDups_inOrder values).imp ?_
  rintro a _ less rfl
  exact Nat.lt_irrefl _ less

end

namespace Registry

def enroll (registry : Registry) : Enrolment → Registry
  | .mention name => (registry.intern name).2
  | .areaTrigger binding => registry.bindAreaTrigger binding
  | .event binding => registry.bindEvent binding
  | .register name hooks => (registry.register name hooks).value.2
  | .bindInstance map name => (registry.bindInstance map name).2

def enrollAll (registry : Registry) (calls : List Enrolment) : Registry :=
  calls.foldl enroll registry

theorem enrollAll_append (registry : Registry) (calls further : List Enrolment) :
    registry.enrollAll (calls ++ further) = (registry.enrollAll calls).enrollAll further :=
  List.foldl_append

theorem ofNames_eq (names : ScriptNames) :
    (ofNames names).value = ({} : Registry).enrollAll names.enrolments := by
  simp only [enrollAll, ScriptNames.enrolments, List.foldl_append, List.foldl_map]
  rfl

theorem toNat_idAt (place : Nat) : (idAt place).toNat = min place 0xFFFFFFFF := by
  unfold idAt
  split
  · rename_i small
    rw [UInt32.toNat_ofNat_of_lt' small]
    simp only [UInt32.size] at small
    omega
  · rename_i large
    simp only [UInt32.size] at large
    show 0xFFFFFFFF = _
    omega

theorem toNat_idAt_of_lt {place : Nat} (small : place < UInt32.size) : (idAt place).toNat = place := by
  rw [toNat_idAt]
  simp only [UInt32.size] at small
  omega

theorem idAt_toNat (id : UInt32) : idAt id.toNat = id :=
  UInt32.toNat_inj.mp (toNat_idAt_of_lt id.toNat_lt)

/-- The names are those mentioned, in the order of their first appearance, and the map leads from each of
them, the empty one apart, to the id of its place. -/
structure Knows (registry : Registry) (mentioned : List String) : Prop where
  names : registry.names = ("" :: mentioned).eraseDups
  ids : ∀ name, registry.ids.lookup name =
    if name ≠ "" ∧ name ∈ registry.names then some (idAt (registry.names.idxOf name)) else none

namespace Knows

variable {registry : Registry} {mentioned : List String} {name : String} {id other : UInt32}

theorem mem_names (knows : registry.Knows mentioned) :
    name ∈ registry.names ↔ name = "" ∨ name ∈ mentioned := by
  rw [knows.names, List.mem_eraseDups, List.mem_cons]

theorem nodup (knows : registry.Knows mentioned) : registry.names.Nodup :=
  knows.names ▸ nodup_eraseDups _

theorem zero (knows : registry.Knows mentioned) : registry.scriptName? 0 = some "" := by
  rw [scriptName?, knows.names, List.eraseDups_cons]
  rfl

theorem empty_mem (knows : registry.Knows mentioned) : "" ∈ registry.names :=
  knows.mem_names.mpr (.inl rfl)

theorem isEmpty_names (knows : registry.Knows mentioned) : registry.names.isEmpty = false :=
  List.isEmpty_eq_false_iff_exists_mem.mpr ⟨_, knows.empty_mem⟩

theorem idCount (knows : registry.Knows mentioned) : registry.idCount = registry.names.length :=
  Nat.max_eq_left (List.length_pos_of_mem knows.empty_mem)

theorem idxOf_eq_zero (knows : registry.Knows mentioned) (member : name ∈ registry.names) :
    registry.names.idxOf name = 0 ↔ name = "" := by
  have first : registry.names.idxOf "" = 0 := by
    rw [knows.names, List.eraseDups_cons, List.idxOf_cons_self]
  refine ⟨fun zero => ?_, fun empty => empty ▸ first⟩
  exact (List.idxOf_inj member).mp (zero.trans first.symm)

-- The map gives the empty name no id, which is read as zero, the id of its place.
theorem scriptId_of_mem (knows : registry.Knows mentioned) (member : name ∈ registry.names) :
    registry.scriptId name = idAt (registry.names.idxOf name) := by
  rw [scriptId, knows.ids]
  by_cases empty : name = ""
  · rw [if_neg fun known => known.1 empty, (knows.idxOf_eq_zero member).mpr empty]
    rfl
  · rw [if_pos ⟨empty, member⟩]
    rfl

theorem idxOf_of_scriptName? (knows : registry.Knows mentioned)
    (found : registry.scriptName? id = some name) : registry.names.idxOf name = id.toNat := by
  obtain ⟨within, rfl⟩ := List.getElem?_eq_some_iff.mp found
  exact knows.nodup.idxOf_getElem _ within

theorem scriptId_of_scriptName? (knows : registry.Knows mentioned)
    (found : registry.scriptName? id = some name) : registry.scriptId name = id := by
  rw [knows.scriptId_of_mem (List.mem_of_getElem? found), knows.idxOf_of_scriptName? found, idAt_toNat]

theorem intern_known (knows : registry.Knows mentioned) (member : name ∈ registry.names) :
    registry.intern name = (registry.scriptId name, registry) := by
  unfold intern
  simp only [knows.isEmpty_names, Bool.false_eq_true, if_false]
  by_cases empty : name = ""
  · subst name
    rw [knows.scriptId_of_scriptName? knows.zero]
    rfl
  · have known : registry.ids.lookup name = some (registry.scriptId name) := by
      rw [knows.scriptId_of_mem member, knows.ids, if_pos ⟨empty, member⟩]
    rw [if_neg (by simpa using empty), known]

theorem intern_fresh (knows : registry.Knows mentioned) (fresh : name ∉ registry.names) :
    registry.intern name =
      (idAt registry.names.length, { registry with
        names := registry.names ++ [name]
        ids := (name, idAt registry.names.length) :: registry.ids }) := by
  have named : name ≠ "" := fun empty => fresh (empty ▸ knows.empty_mem)
  unfold intern
  simp only [knows.isEmpty_names, Bool.false_eq_true, if_false]
  rw [if_neg (by simpa using named), knows.ids, if_neg fun known => fresh known.2]

theorem intern_keeps (knows : registry.Knows mentioned) (name : String) :
    ∃ names ids, (registry.intern name).2 = { registry with names, ids } := by
  by_cases member : name ∈ registry.names
  · rw [knows.intern_known member]
    exact ⟨registry.names, registry.ids, rfl⟩
  · rw [knows.intern_fresh member]
    exact ⟨_, _, rfl⟩

theorem names_concat (knows : registry.Knows mentioned) (name : String) :
    ("" :: (mentioned ++ [name])).eraseDups =
      if name ∈ registry.names then registry.names else registry.names ++ [name] := by
  have member : name ∈ registry.names ↔ name ∈ "" :: mentioned := by
    rw [knows.names, List.mem_eraseDups]
  rw [← List.cons_append, eraseDups_concat, ← knows.names]
  simp only [member]

theorem intern (knows : registry.Knows mentioned) (name : String) :
    (registry.intern name).2.Knows (mentioned ++ [name]) := by
  have names := knows.names_concat name
  by_cases member : name ∈ registry.names
  · rw [if_pos member] at names
    rw [knows.intern_known member]
    exact ⟨names.symm, knows.ids⟩
  · rw [if_neg member] at names
    rw [knows.intern_fresh member]
    refine ⟨names.symm, fun other => ?_⟩
    have named : name ≠ "" := fun empty => member (empty ▸ knows.empty_mem)
    show ((name, idAt registry.names.length) :: registry.ids).lookup other = _
    by_cases same : other = name
    · subst other
      rw [List.lookup_cons, beq_self_eq_true, if_pos ⟨named, List.mem_concat_self⟩, idxOf_concat member]
    · have elsewhere : (other == name) = false := beq_eq_false_iff_ne.mpr same
      have kept : other ∈ registry.names ++ [name] ↔ other ∈ registry.names := by
        rw [List.mem_append, List.mem_singleton, or_iff_left same]
      rw [List.lookup_cons, elsewhere, knows.ids]
      simp only [kept]
      by_cases known : other ≠ "" ∧ other ∈ registry.names
      · rw [if_pos known, if_pos known, List.idxOf_append_of_mem known.2]
      · rw [if_neg known, if_neg known]

theorem intern_id (knows : registry.Knows mentioned) (name : String) :
    (registry.intern name).1 = (registry.intern name).2.scriptId name := by
  have later := knows.intern name
  by_cases member : name ∈ registry.names
  · rw [knows.intern_known member]
  · rw [knows.intern_fresh member] at later ⊢
    rw [later.scriptId_of_mem List.mem_concat_self, idxOf_concat member]

theorem enroll (knows : registry.Knows mentioned) (call : Enrolment) :
    (registry.enroll call).Knows (mentioned ++ [call.script]) := by
  have interned := knows.intern call.script
  cases call <;> exact ⟨interned.names, interned.ids⟩

theorem enrollAll (knows : registry.Knows mentioned) (calls : List Enrolment) :
    (registry.enrollAll calls).Knows (mentioned ++ calls.map Enrolment.script) := by
  induction calls generalizing registry mentioned with
  | nil =>
      rw [List.map_nil, List.append_nil]
      exact knows
  | cons call rest ih =>
      have later := ih (knows.enroll call)
      rwa [List.append_assoc] at later

theorem names_enrollAll (knows : registry.Knows mentioned) (calls : List Enrolment) :
    ∃ more, (registry.enrollAll calls).names = registry.names ++ more := by
  have later := (knows.enrollAll calls).names
  rw [← List.cons_append, List.eraseDups_append, ← knows.names] at later
  exact ⟨_, later⟩

theorem scriptId_enrollAll (knows : registry.Knows mentioned) (calls : List Enrolment)
    (member : name ∈ registry.names) :
    (registry.enrollAll calls).scriptId name = registry.scriptId name := by
  obtain ⟨more, later⟩ := knows.names_enrollAll calls
  have kept : name ∈ (registry.enrollAll calls).names := later ▸ List.mem_append_left more member
  rw [(knows.enrollAll calls).scriptId_of_mem kept, knows.scriptId_of_mem member, later,
    List.idxOf_append_of_mem member]

theorem scriptId_ne_zero (knows : registry.Knows mentioned) (member : name ∈ mentioned)
    (named : name ≠ "") : registry.scriptId name ≠ 0 := by
  have known : name ∈ registry.names := knows.mem_names.mpr (.inr member)
  have place : registry.names.idxOf name ≠ 0 := mt (knows.idxOf_eq_zero known).mp named
  intro zero
  rw [knows.scriptId_of_mem known] at zero
  have least := congrArg UInt32.toNat zero
  rw [toNat_idAt] at least
  simp only [UInt32.toNat_zero] at least
  omega

end Knows

theorem knows_new : ({} : Registry).Knows [] where
  names := rfl
  ids name := by
    show none = _
    rw [if_neg fun known => known.1 (List.mem_singleton.mp known.2)]

end Registry

end WorldScripts
