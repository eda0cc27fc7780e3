import WorldScripts.Proofs.Registry.Names
import WorldScripts.Proofs.Scripts.Grouping

/-!
The dispatch of calls to native scripts. Which hooks a dispatch reaches follows from what the registry was
told: those registered last under the script id of the entity, trigger, event or map that the call is about.
-/

namespace WorldScripts

inductive Binding where
  | areaTrigger (trigger : UInt32)
  | event (event : UInt32)
  | map (map : UInt32)
  deriving DecidableEq

namespace Enrolment

-- The hooks that are registered under a name of an id.
def hooksUnder? (scriptId : String → UInt32) (id : UInt32) : Enrolment → Option Hooks
  | .register name hooks => if scriptId name = id then some hooks else none
  | _ => none

def binding? : Enrolment → Option Binding
  | .areaTrigger binding => some (.areaTrigger binding.id)
  | .event binding => some (.event binding.id)
  | .bindInstance map _ => some (.map map)
  | .mention _ | .register .. => none

def boundTo? (binding : Binding) (call : Enrolment) : Option String :=
  if call.binding? = some binding then some call.script else none

-- A registration under the empty name.
def isNameless : Enrolment → Bool
  | .register name _ => name.isEmpty
  | _ => false

-- The last of what the calls say about something.
def last? {α : Type} (about : Enrolment → Option α) (calls : List Enrolment) : Option α :=
  (calls.filterMap about).getLast?

section

variable {α : Type} {about : Enrolment → Option α} {calls : List Enrolment} {call : Enrolment}

theorem last?_concat : last? about (calls ++ [call]) = (about call).or (last? about calls) := by
  rw [last?, List.filterMap_append]
  cases said : about call with
  | none => simp [said, last?]
  | some value => simp [said]

theorem last?_congr {about' : Enrolment → Option α} (same : ∀ call ∈ calls, about call = about' call) :
    last? about calls = last? about' calls :=
  congrArg List.getLast? (List.filterMap_congr same)

theorem mem_of_last? {value : α} (found : last? about calls = some value) :
    ∃ call ∈ calls, about call = some value :=
  List.mem_filterMap.mp (List.mem_of_getLast? found)

theorem last?_filter (silent : ∀ call : Enrolment, call.isNameless = true → about call = none) :
    last? about (calls.filter fun call => !call.isNameless) = last? about calls := by
  rw [last?, List.filterMap_filter]
  refine congrArg List.getLast? (List.filterMap_congr fun call _ => ?_)
  cases nameless : call.isNameless with
  | false => rfl
  | true => exact (silent call nameless).symm

end

variable {call : Enrolment} {calls : List Enrolment} {name : String} {binding : Binding} {hooks : Hooks}
  {scriptId : String → UInt32} {id : UInt32}

theorem register_of_hooksUnder? (said : call.hooksUnder? scriptId id = some hooks) :
    ∃ name, call = .register name hooks ∧ scriptId name = id := by
  cases call with
  | register name hooks' =>
      obtain ⟨same, rfl⟩ := Option.ite_some_none_eq_some.mp said
      exact ⟨name, rfl, same⟩
  | _ => cases said

theorem mentioned_of_bound (found : last? (boundTo? binding) calls = some name) :
    name ∈ calls.map script := by
  obtain ⟨call, member, said⟩ := mem_of_last? found
  exact List.mem_map.mpr ⟨call, member, Option.some.inj (Option.ite_none_right_eq_some.mp said).2⟩

theorem boundTo?_of_nameless (nameless : call.isNameless = true) : call.boundTo? binding = none := by
  cases call with
  | register => rfl
  | _ => cases nameless

theorem hooksUnder?_of_nameless (reserved : scriptId "" = 0) (positive : id ≠ 0)
    (nameless : call.isNameless = true) : call.hooksUnder? scriptId id = none := by
  cases call with
  | register name hooks =>
      obtain rfl := String.isEmpty_iff.mp nameless
      exact if_neg fun same => positive (same.symm.trans reserved)
  | _ => cases nameless

end Enrolment

theorem ScriptNames.named_enrolments (names : ScriptNames) :
    ∀ call ∈ names.enrolments, (!call.isNameless) = true := by
  unfold enrolments
  simp only [List.forall_mem_append, List.forall_mem_map]
  exact ⟨⟨fun _ _ => rfl, fun _ _ => rfl⟩, fun _ _ => rfl⟩

namespace Registry

open Enrolment (last?)

def idBoundTo? (registry : Registry) : Binding → Option UInt32
  | .areaTrigger trigger => registry.areaTriggers.find? trigger
  | .event event => registry.events.find? event
  | .map map => registry.instances.find? map

namespace Knows

variable {registry : Registry} {mentioned : List String}

theorem find?_enroll (knows : registry.Knows mentioned) (call : Enrolment) (id : UInt32) :
    let later := registry.enroll call
    later.hooks.find? id = (call.hooksUnder? later.scriptId id).or (registry.hooks.find? id) := by
  intro later
  obtain ⟨names, ids, interned⟩ := knows.intern_keeps call.script
  have same : (registry.intern call.script).2.hooks = registry.hooks := by rw [interned]
  cases call with
  | register name hooks =>
      have number : (registry.intern name).1 = later.scriptId name := knows.intern_id name
      have inserted : later.hooks = registry.hooks.insert (later.scriptId name) hooks := by
        rw [← number, ← same]
        rfl
      rw [inserted, OrderedMap.find?_insert_ite, Enrolment.hooksUnder?]
      by_cases here : id = later.scriptId name
      · rw [if_pos here, if_pos here.symm, Option.some_or]
      · rw [if_neg here, if_neg (Ne.symm here), Option.none_or]
  | _ => exact congrArg (OrderedMap.find? · id) same

theorem idBoundTo?_enroll (knows : registry.Knows mentioned) (call : Enrolment) (binding : Binding) :
    let later := registry.enroll call
    later.idBoundTo? binding =
      ((call.boundTo? binding).map later.scriptId).or (registry.idBoundTo? binding) := by
  intro later
  obtain ⟨names, ids, interned⟩ := knows.intern_keeps call.script
  have number : (registry.intern call.script).1 = later.scriptId call.script := by
    have given := knows.intern_id call.script
    cases call <;> exact given
  have same : (registry.intern call.script).2.idBoundTo? binding = registry.idBoundTo? binding := by
    rw [interned]
    cases binding <;> rfl
  by_cases bound : call.binding? = some binding
  · rw [Enrolment.boundTo?, if_pos bound, Option.map_some, Option.some_or, ← number]
    cases call with
    | mention name | register name hooks => cases bound
    | areaTrigger stored | event stored | bindInstance map name =>
        cases bound
        exact (OrderedMap.find?_insert_ite _ _ _ _).trans (if_pos rfl)
  · rw [Enrolment.boundTo?, if_neg bound, Option.map_none, Option.none_or, ← same]
    have elsewhere {key wanted : UInt32} {bindings : OrderedMap UInt32 UInt32} {id : UInt32}
        (apart : wanted ≠ key) : (bindings.insert key id).find? wanted = bindings.find? wanted :=
      (OrderedMap.find?_insert_ite bindings key wanted id).trans (if_neg apart)
    cases call <;> cases binding <;> first
      | rfl
      | exact elsewhere fun equal => bound (by rw [equal]; rfl)

end Knows

/-- What a registry holds follows from what it was told, in order. -/
structure Records (registry : Registry) (told : List Enrolment) : Prop where
  knows : registry.Knows (told.map Enrolment.script)
  hooks : ∀ id, registry.hooks.find? id = last? (Enrolment.hooksUnder? registry.scriptId id) told
  bound : ∀ binding, registry.idBoundTo? binding =
    (last? (Enrolment.boundTo? binding) told).map registry.scriptId

namespace Records

variable {registry : Registry} {told : List Enrolment}

theorem enroll (records : registry.Records told) (call : Enrolment) :
    (registry.enroll call).Records (told ++ [call]) := by
  have knows := records.knows
  have kept {name} (member : name ∈ told.map Enrolment.script) :
      (registry.enroll call).scriptId name = registry.scriptId name :=
    knows.scriptId_enrollAll [call] (knows.mem_names.mpr (.inr member))
  constructor
  · rw [List.map_append]
    exact knows.enroll call
  · intro id
    rw [knows.find?_enroll call id, records.hooks id, Enrolment.last?_concat]
    -- The names mentioned before keep their ids, and with them what was registered before.
    refine congrArg _ (Enrolment.last?_congr fun earlier member => ?_)
    cases earlier with
    | register name hooks =>
        have named : name ∈ told.map Enrolment.script := List.mem_map.mpr ⟨_, member, rfl⟩
        simp only [Enrolment.hooksUnder?, kept named]
    | _ => rfl
  · intro binding
    rw [knows.idBoundTo?_enroll call binding, records.bound binding, Enrolment.last?_concat]
    cases call.boundTo? binding with
    | some name => rfl
    | none =>
        rw [Option.map_none, Option.none_or, Option.none_or]
        exact Option.map_congr fun name found => (kept (Enrolment.mentioned_of_bound found)).symm

theorem enrollAll (records : registry.Records told) (calls : List Enrolment) :
    (registry.enrollAll calls).Records (told ++ calls) := by
  induction calls generalizing registry told with
  | nil => rwa [List.append_nil]
  | cons call rest ih =>
      have later := ih (records.enroll call)
      rwa [List.append_assoc] at later

end Records

theorem records_new : ({} : Registry).Records [] where
  knows := knows_new
  hooks _ := rfl
  bound binding := by cases binding <;> rfl

theorem records_ofNames (names : ScriptNames) (calls : List Enrolment) :
    ((ofNames names).value.enrollAll calls).Records (names.enrolments ++ calls) := by
  rw [ofNames_eq, ← enrollAll_append]
  exact records_new.enrollAll _

section

variable (registry : Registry) (told : List Enrolment)

/-- The hooks registered last under a name of the id. Id zero, that of the empty name, has none. -/
def latest? (id : UInt32) : Option Hooks :=
  if id = 0 then none else last? (Enrolment.hooksUnder? registry.scriptId id) told

def latestFor? (world : World) (guid : Guid) : Option Hooks :=
  (world.entity? guid).bind fun entity => registry.latest? told entity.scriptId

def latestBoundTo? (binding : Binding) : Option Hooks :=
  (last? (Enrolment.boundTo? binding) told).bind fun name => registry.latest? told (registry.scriptId name)

end

/-- One call of the hook decides: what it answers is the answer, and the default stands in for an answer that
it does not give. Without hooks the default is the answer and the world stays as it is. -/
def Answers {α : Type} (world : World) (hooks? : Option Hooks) (hook : Hooks → HookReply α) (default : α)
    (result : α × World) : Prop :=
  match hooks? with
  | none => result = (default, world)
  | some hooks =>
      (∀ answer after, hook hooks world = (some answer, after) → result = (answer, after)) ∧
        ∀ after, hook hooks world = (none, after) → result = (default, after)

/-- Each dispatch puts its arguments to the hook of its own name, among the hooks of the entity or of the
binding that it is about. -/
structure Dispatches (registry : Registry) (world : World) (entityHooks : Guid → Option Hooks)
    (boundHooks : Binding → Option Hooks) : Prop where
  gossipHelloCreature : ∀ player creature,
    Answers world (entityHooks creature) (·.gossipHelloCreature player creature)
      false (registry.gossipHelloCreature player creature world)
  gossipHelloGameObject : ∀ player object,
    Answers world (entityHooks object) (·.gossipHelloGameObject player object)
      false (registry.gossipHelloGameObject player object world)
  gossipSelectCreature : ∀ player creature sender action code,
    Answers world (entityHooks creature)
      (·.gossipSelectCreature player creature sender action code)
      false (registry.gossipSelectCreature player creature sender action code world)
  gossipSelectGameObject : ∀ player object sender action code,
    Answers world (entityHooks object)
      (·.gossipSelectGameObject player object sender action code)
      false (registry.gossipSelectGameObject player object sender action code world)
  questAcceptCreature : ∀ player creature quest,
    Answers world (entityHooks creature)
      (·.questAcceptCreature player creature quest)
      false (registry.questAcceptCreature player creature quest world)
  questAcceptGameObject : ∀ player object quest,
    Answers world (entityHooks object) (·.questAcceptGameObject player object quest)
      false (registry.questAcceptGameObject player object quest world)
  questAcceptItem : ∀ player item quest,
    Answers world (entityHooks item) (·.questAcceptItem player item quest)
      false (registry.questAcceptItem player item quest world)
  questRewardedCreature : ∀ player creature quest,
    Answers world (entityHooks creature)
      (·.questRewardedCreature player creature quest)
      false (registry.questRewardedCreature player creature quest world)
  questRewardedGameObject : ∀ player object quest,
    Answers world (entityHooks object)
      (·.questRewardedGameObject player object quest)
      false (registry.questRewardedGameObject player object quest world)
  dialogStatusCreature : ∀ player creature,
    Answers world (entityHooks creature) (·.dialogStatusCreature player creature)
      100 (registry.dialogStatusCreature player creature world)
  dialogStatusGameObject : ∀ player object,
    Answers world (entityHooks object) (·.dialogStatusGameObject player object)
      100 (registry.dialogStatusGameObject player object world)
  gameObjectUse : ∀ user object,
    Answers world (entityHooks object) (·.gameObjectUse user object)
      false (registry.gameObjectUse user object world)
  gameObjectOpen : ∀ player object,
    Answers world (entityHooks object) (·.gameObjectOpen player object)
      false (registry.gameObjectOpen player object world)
  itemUse : ∀ player item target,
    Answers world (entityHooks item) (·.itemUse player item target)
      false (registry.itemUse player item target world)
  areaTrigger : ∀ player trigger,
    Answers world (boundHooks (.areaTrigger trigger)) (·.areaTrigger player trigger)
      false (registry.areaTrigger player trigger world)
  processEvent : ∀ event source target isStart,
    Answers world (boundHooks (.event event))
      (·.processEvent event source target isStart)
      false (registry.processEvent event source target isStart world)
  effectDummyCreature : ∀ caster spell effectIndex creature,
    Answers world (entityHooks creature)
      (·.effectDummyCreature caster spell effectIndex creature)
      false (registry.effectDummyCreature caster spell effectIndex creature world)
  effectScriptEffectCreature : ∀ caster spell effectIndex creature originalCaster,
    Answers world (entityHooks creature)
      (·.effectScriptEffectCreature caster spell effectIndex creature originalCaster)
      false (registry.effectScriptEffectCreature caster spell effectIndex creature originalCaster world)
  effectDummyGameObject : ∀ caster spell effectIndex object,
    Answers world (entityHooks object)
      (·.effectDummyGameObject caster spell effectIndex object)
      false (registry.effectDummyGameObject caster spell effectIndex object world)
  effectDummyItem : ∀ caster spell effectIndex item,
    Answers world (entityHooks item)
      (·.effectDummyItem caster spell effectIndex item)
      false (registry.effectDummyItem caster spell effectIndex item world)
  auraDummy : ∀ aura isApplied,
    Answers world (entityHooks aura.holder) (·.auraDummy aura isApplied)
      false (registry.auraDummy aura isApplied world)
  creatureAi : ∀ creature, registry.creatureAi world creature =
    (entityHooks creature).bind (·.creatureAi creature)
  gameObjectAi : ∀ object, registry.gameObjectAi world object =
    (entityHooks object).bind (·.gameObjectAi object)
  instanceData : ∀ map, registry.instanceData map =
    (boundHooks (.map map)).bind (·.instanceData map)

theorem answers_dispatch {α : Type} (hooks? : Option Hooks) (hook : Hooks → HookReply α) (default : α)
    (world : World) : Answers world hooks? hook default (dispatch hooks? hook default world) := by
  cases hooks? with
  | none => exact rfl
  | some hooks =>
      unfold Answers dispatch
      constructor
      · intro answer after said
        simp only [said, Option.getD_some]
      · intro after unsaid
        simp only [unsaid, Option.getD_none]

namespace Records

variable {registry : Registry} {told : List Enrolment}

theorem hooksForId?_eq (records : registry.Records told) (id : UInt32) :
    registry.hooksForId? id = registry.latest? told id := by
  rw [hooksForId?, latest?, records.hooks]

theorem hooksFor?_eq (records : registry.Records told) (world : World) (guid : Guid) :
    registry.hooksFor? world guid = registry.latestFor? told world guid :=
  Option.bind_congr fun entity _ => records.hooksForId?_eq entity.scriptId

-- An id that is not bound is read as zero, which has no hooks.
theorem hooksForId?_bound (records : registry.Records told) (binding : Binding) :
    registry.hooksForId? ((registry.idBoundTo? binding).getD 0) =
      registry.latestBoundTo? told binding := by
  rw [records.bound, latestBoundTo?, records.hooksForId?_eq]
  cases last? (Enrolment.boundTo? binding) told <;> rfl

theorem dispatches (records : registry.Records told) (world : World) :
    registry.Dispatches world (registry.latestFor? told world) (registry.latestBoundTo? told) := by
  have entity {α : Type} (guid : Guid) (hook : Hooks → HookReply α) (default : α) :
      Answers world (registry.latestFor? told world guid) hook default
        (dispatch (registry.hooksFor? world guid) hook default world) := by
    rw [records.hooksFor?_eq]
    exact answers_dispatch ..
  have bound {α : Type} (binding : Binding) (hook : Hooks → HookReply α) (default : α) :
      Answers world (registry.latestBoundTo? told binding) hook default
        (dispatch (registry.hooksForId? ((registry.idBoundTo? binding).getD 0)) hook default world) := by
    rw [records.hooksForId?_bound]
    exact answers_dispatch ..
  constructor
  case areaTrigger => exact fun _ trigger => bound (.areaTrigger trigger) _ _
  case processEvent => exact fun event _ _ _ => bound (.event event) _ _
  case creatureAi => exact fun creature => congrArg (Option.bind · _) (records.hooksFor?_eq world creature)
  case gameObjectAi => exact fun object => congrArg (Option.bind · _) (records.hooksFor?_eq world object)
  case instanceData =>
    intro map
    rw [← records.hooksForId?_bound]
    show (registry.instances.find? map).bind _ = (registry.hooksForId?
      ((registry.instances.find? map).getD 0)).bind _
    cases registry.instances.find? map with
    | none => rfl
    | some id => rfl
  all_goals
    intros
    exact entity _ _ _

theorem latest?_registered (records : registry.Records told) {id : UInt32} {hooks : Hooks}
    (found : registry.latest? told id = some hooks) :
    ∃ name, name ≠ "" ∧ registry.scriptId name = id ∧ .register name hooks ∈ told := by
  obtain ⟨positive, latest⟩ := Option.ite_none_left_eq_some.mp found
  obtain ⟨call, member, said⟩ := Enrolment.mem_of_last? latest
  obtain ⟨name, rfl, same⟩ := Enrolment.register_of_hooksUnder? said
  refine ⟨name, ?_, same, member⟩
  rintro rfl
  exact positive (same.symm.trans (records.knows.scriptId_of_scriptName? records.knows.zero))

section

variable {named : Registry} (records : registry.Records told)
  (others : named.Records (told.filter fun call => !call.isNameless))

include records others

theorem names_filter : named.names = registry.names := by
  have named (call : Enrolment) : (!call.script == "") =
      ((!call.script == "") && !call.isNameless) := by
    cases call with
    | register name hooks =>
        by_cases empty : name = "" <;> simp [Enrolment.script, Enrolment.isNameless, empty]
    | _ => simp [Enrolment.isNameless]
  rw [records.knows.names, others.knows.names, List.eraseDups_cons, List.eraseDups_cons,
    List.filter_map, List.filter_map, List.filter_filter]
  have same : (told.filter fun call => !call.script == "") = told.filter fun call =>
      (!call.script == "") && !call.isNameless := List.filter_congr fun call _ => named call
  exact congrArg (fun kept => "" :: (kept.map Enrolment.script).eraseDups) same.symm

theorem scriptId_filter : named.scriptId = registry.scriptId := by
  funext name
  simp only [scriptId, records.knows.ids, others.knows.ids, records.names_filter others]

theorem latest?_filter :
    named.latest? (told.filter fun call => !call.isNameless) = registry.latest? told := by
  have reserved : registry.scriptId "" = 0 :=
    records.knows.scriptId_of_scriptName? records.knows.zero
  funext id
  unfold latest?
  rw [records.scriptId_filter others]
  by_cases zero : id = 0
  · rw [if_pos zero, if_pos zero]
  · rw [if_neg zero, if_neg zero]
    exact Enrolment.last?_filter fun _ => Enrolment.hooksUnder?_of_nameless reserved zero

theorem dispatches_filter (world : World) :
    named.Dispatches world (registry.latestFor? told world) (registry.latestBoundTo? told) := by
  have entity : named.latestFor? (told.filter fun call => !call.isNameless) world =
      registry.latestFor? told world := by
    funext guid
    rw [latestFor?, latestFor?, records.latest?_filter others]
  have bound : named.latestBoundTo? (told.filter fun call => !call.isNameless) =
      registry.latestBoundTo? told := by
    funext binding
    rw [latestBoundTo?, latestBoundTo?, records.latest?_filter others, records.scriptId_filter others,
      Enrolment.last?_filter fun _ => Enrolment.boundTo?_of_nameless]
  have dispatched := others.dispatches world
  rwa [entity, bound] at dispatched

end

end Records

/-- A dispatch about an entity goes by the script id of the entity, and one about a trigger, an event or a map
by the id of the name bound to it last. It is put to the hooks registered last under a name of that id, and
answered with the default where there are none. Those are never hooks registered under the empty name, and
without these registrations every dispatch is answered alike. -/
theorem enrollAll_dispatch (names : ScriptNames) (calls : List Enrolment) (world : World) :
    let registry := (ofNames names).value.enrollAll calls
    let named := (ofNames names).value.enrollAll (calls.filter fun call => !call.isNameless)
    let told := names.enrolments ++ calls
    registry.Dispatches world (registry.latestFor? told world) (registry.latestBoundTo? told) ∧
      named.Dispatches world (registry.latestFor? told world) (registry.latestBoundTo? told) ∧
      ∀ id hooks, registry.latest? told id = some hooks →
        ∃ name, name ≠ "" ∧ registry.scriptId name = id ∧ .register name hooks ∈ told := by
  intro registry named told
  have records : registry.Records told := records_ofNames names calls
  have enrolled : (told.filter fun call => !call.isNameless) =
      names.enrolments ++ calls.filter fun call => !call.isNameless := by
    rw [List.filter_append, List.filter_eq_self.mpr names.named_enrolments]
  have others : named.Records (told.filter fun call => !call.isNameless) :=
    enrolled ▸ records_ofNames names _
  exact ⟨records.dispatches world, records.dispatches_filter others world,
    fun _ _ => records.latest?_registered⟩

end Registry

end WorldScripts
