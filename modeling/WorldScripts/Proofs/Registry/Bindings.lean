import WorldScripts.Proofs.Registry.Dispatch

/-!
Bindings that are stored. A registry takes them as they are: a later binding of an id replaces an earlier
one, and with an empty name there is no script. Names without faults leave it no such choice, so that each
binding leads to its own script, and goes on doing so when more is registered.
-/

namespace WorldScripts

inductive BindingKind where
  | areaTrigger
  | event
  deriving DecidableEq, Repr

def BindingKind.binding : BindingKind → UInt32 → Binding
  | .areaTrigger => .areaTrigger
  | .event => .event

/-- What a registry can be told while it is in use, when all that is stored has been enrolled. -/
def Enrolment.IsCall : Enrolment → Prop
  | .register .. | .bindInstance .. => True
  | .mention _ | .areaTrigger _ | .event _ => False

namespace ScriptNames

def bindings (names : ScriptNames) : BindingKind → List ScriptBinding
  | .areaTrigger => names.areaTriggers
  | .event => names.events

theorem bindingFaults_eq_nil (kind : String) (seen : List UInt32) (bindings : List ScriptBinding) :
    bindingFaults kind seen bindings = [] ↔
      (∀ binding ∈ bindings, binding.script ≠ "" ∧ binding.id ∉ seen) ∧
        (bindings.map ScriptBinding.id).Nodup := by
  induction bindings generalizing seen with
  | nil => simp [bindingFaults]
  | cons binding rest ih =>
      by_cases nameless : binding.script = ""
      · simp [bindingFaults, nameless]
      · by_cases known : binding.id ∈ seen
        · simp [bindingFaults, nameless, known]
        · -- From here on the id counts as bound.
          have accepted : bindingFaults kind seen (binding :: rest) =
              bindingFaults kind (binding.id :: seen) rest := by
            simp [bindingFaults, nameless, known]
          rw [accepted, ih, List.map_cons, List.nodup_cons, List.forall_mem_cons]
          constructor
          · rintro ⟨sound, distinct⟩
            refine ⟨⟨⟨nameless, known⟩, fun other member => ?_⟩, ?_, distinct⟩
            · exact ⟨(sound other member).1, fun seen => (sound other member).2 (.tail _ seen)⟩
            · rintro twin
              obtain ⟨other, member, same⟩ := List.mem_map.mp twin
              exact (sound other member).2 (same ▸ List.mem_cons_self)
          · rintro ⟨⟨_, sound⟩, single, distinct⟩
            refine ⟨fun other member => ⟨(sound other member).1, fun seen => ?_⟩, distinct⟩
            rcases List.mem_cons.mp seen with same | seen
            · exact single (List.mem_map.mpr ⟨other, member, same⟩)
            · exact (sound other member).2 seen

theorem faults_eq_nil (names : ScriptNames) :
    names.faults = [] ↔ ∀ kind,
      (∀ binding ∈ names.bindings kind, binding.script ≠ "") ∧
        ((names.bindings kind).map ScriptBinding.id).Nodup := by
  rw [faults, List.append_eq_nil_iff, bindingFaults_eq_nil, bindingFaults_eq_nil]
  constructor
  · rintro ⟨triggers, events⟩ (_ | _)
    · exact ⟨fun binding member => (triggers.1 binding member).1, triggers.2⟩
    · exact ⟨fun binding member => (events.1 binding member).1, events.2⟩
  · intro sound
    constructor
    · exact ⟨fun binding member => ⟨(sound .areaTrigger).1 binding member, List.not_mem_nil⟩,
        (sound .areaTrigger).2⟩
    · exact ⟨fun binding member => ⟨(sound .event).1 binding member, List.not_mem_nil⟩,
        (sound .event).2⟩

theorem boundTo?_enrolments (names : ScriptNames) (kind : BindingKind) (id : UInt32) :
    names.enrolments.filterMap (Enrolment.boundTo? (kind.binding id)) =
      ((names.bindings kind).filter (·.id = id)).map (·.script) := by
  have own (bindings : List ScriptBinding) :
      bindings.filterMap (fun binding => if binding.id = id then some binding.script else none) =
        (bindings.filter (·.id = id)).map (·.script) := by
    induction bindings with
    | nil => rfl
    | cons binding rest ih => by_cases here : binding.id = id <;> simp [here, ih]
  cases kind <;>
    simp [enrolments, BindingKind.binding, bindings, Enrolment.boundTo?, Enrolment.binding?,
      Enrolment.script, Function.comp_def, ← own]

end ScriptNames

namespace Registry

open Enrolment (last?)

def boundScript (registry : Registry) : BindingKind → UInt32 → UInt32
  | .areaTrigger, id => registry.areaTriggerScript id
  | .event, id => registry.eventScript id

theorem Records.boundScript_eq {registry : Registry} {told : List Enrolment}
    (records : registry.Records told) (kind : BindingKind) (id : UInt32) :
    registry.boundScript kind id =
      ((last? (Enrolment.boundTo? (kind.binding id)) told).map registry.scriptId).getD 0 := by
  cases kind with
  | areaTrigger => exact congrArg (Option.getD · 0) (records.bound (.areaTrigger id))
  | event => exact congrArg (Option.getD · 0) (records.bound (.event id))

variable {names : ScriptNames} {calls : List Enrolment} {kind : BindingKind}

-- Calls leave what is bound in storage alone, so that the last binding there is what counts.
theorem last?_boundTo? (later : ∀ call ∈ calls, call.IsCall) (id : UInt32) :
    last? (Enrolment.boundTo? (kind.binding id)) (names.enrolments ++ calls) =
      (((names.bindings kind).filter (·.id = id)).map (·.script)).getLast? := by
  have silent : calls.filterMap (Enrolment.boundTo? (kind.binding id)) = [] := by
    refine List.filterMap_eq_nil_iff.mpr fun call member => if_neg fun bound => ?_
    have used := later call member
    cases call with
    | mention | areaTrigger | event => exact used
    | register => cases bound
    | bindInstance => cases kind <;> cases bound
  rw [last?, List.filterMap_append, silent, List.append_nil, ScriptNames.boundTo?_enrolments]

theorem filter_id {bindings : List ScriptBinding} (distinct : (bindings.map ScriptBinding.id).Nodup)
    {binding : ScriptBinding} (member : binding ∈ bindings) :
    bindings.filter (·.id = binding.id) = [binding] := by
  have same : bindings.filter (·.id = binding.id) = bindings.filter (· == binding) := by
    refine List.filter_congr fun other member' => ?_
    rw [Bool.eq_iff_iff, decide_eq_true_iff, beq_iff_eq]
    exact ⟨List.inj_on_of_nodup_map distinct member' member, congrArg ScriptBinding.id⟩
  rw [same, List.filter_beq, List.count_eq_one_of_mem distinct.of_map member, List.replicate_one]

theorem boundScript_of_mem (accepted : names.faults = []) (later : ∀ call ∈ calls, call.IsCall)
    {binding : ScriptBinding} (member : binding ∈ names.bindings kind) :
    let registry := (ofNames names).value.enrollAll calls
    registry.boundScript kind binding.id = registry.scriptId binding.script ∧
      registry.scriptId binding.script ≠ 0 := by
  intro registry
  obtain ⟨named, distinct⟩ := names.faults_eq_nil.mp accepted kind
  have records : registry.Records (names.enrolments ++ calls) := records_ofNames names calls
  have bound : last? (Enrolment.boundTo? (kind.binding binding.id)) (names.enrolments ++ calls) =
      some binding.script := by
    rw [last?_boundTo? later, filter_id distinct member]
    rfl
  constructor
  · rw [records.boundScript_eq, bound]
    rfl
  · exact records.knows.scriptId_ne_zero (Enrolment.mentioned_of_bound bound) (named binding member)

theorem boundScript_of_unbound (later : ∀ call ∈ calls, call.IsCall) {id : UInt32}
    (unbound : id ∉ (names.bindings kind).map ScriptBinding.id) :
    ((ofNames names).value.enrollAll calls).boundScript kind id = 0 := by
  have nothing : (names.bindings kind).filter (·.id = id) = [] := by
    refine List.filter_eq_nil_iff.mpr fun binding member same => unbound ?_
    exact List.mem_map.mpr ⟨binding, member, of_decide_eq_true same⟩
  rw [(records_ofNames names calls).boundScript_eq, last?_boundTo? later, nothing]
  rfl

/-- Names are accepted when, among triggers as among events, each binding has a script and no id is bound
twice. Then each binding leads to its own script, which is not zero, and all other ids to none. -/
theorem bindings_resolve (names : ScriptNames) :
    (names.faults = [] ↔ ∀ kind,
      (∀ binding ∈ names.bindings kind, binding.script ≠ "") ∧
        ((names.bindings kind).map ScriptBinding.id).Nodup) ∧
    (names.faults = [] → ∀ calls : List Enrolment, (∀ call ∈ calls, call.IsCall) →
      let registry := (ofNames names).value.enrollAll calls
      ∀ kind,
        (∀ binding ∈ names.bindings kind,
          registry.boundScript kind binding.id = registry.scriptId binding.script ∧
            registry.scriptId binding.script ≠ 0) ∧
        ∀ id, id ∉ (names.bindings kind).map ScriptBinding.id → registry.boundScript kind id = 0) := by
  refine ⟨names.faults_eq_nil, fun accepted calls later => ?_⟩
  intro registry kind
  exact ⟨fun binding => boundScript_of_mem accepted later, fun id => boundScript_of_unbound later⟩

-- A trigger and an event have one number and different scripts, and two triggers share one.
def sharedNames : ScriptNames where
  names := ["wolf"]
  areaTriggers := [⟨7, "gate"⟩, ⟨9, "cave"⟩, ⟨8, "gate"⟩]
  events := [⟨7, "cave"⟩]

theorem sharedNames_resolve :
    let calls : List Enrolment := [.register "bear" {}, .bindInstance 7 "wolf", .register "" {}]
    let registry := (ofNames sharedNames).value.enrollAll calls
    sharedNames.faults = [] ∧ (∀ call ∈ calls, call.IsCall) ∧
      (registry.areaTriggerScript 7 = registry.scriptId "gate" ∧ registry.scriptId "gate" ≠ 0) ∧
      (registry.eventScript 7 = registry.scriptId "cave" ∧ registry.scriptId "cave" ≠ 0) ∧
      registry.eventScript 9 = 0 := by
  intro calls registry
  have accepted : sharedNames.faults = [] := by decide
  have later : ∀ call ∈ calls, call.IsCall := by simp [calls, Enrolment.IsCall]
  have resolve := (bindings_resolve sharedNames).2 accepted calls later
  exact ⟨accepted, later, (resolve .areaTrigger).1 ⟨7, "gate"⟩ (by decide),
    (resolve .event).1 ⟨7, "cave"⟩ (by decide), (resolve .event).2 9 (by decide)⟩

end Registry

end WorldScripts
