import WorldScripts.Proofs.Engine.Waiting

/-!
How an action may go, told by rules instead of by running it. Each command that is due is executed
in the world the one before it has left behind, and an action stops in one of four ways. There is
exactly one way for an action to go, and that is how it is run.
-/

namespace WorldScripts

/-- What became of one action or of several: which of them are kept to wait, which commands were
executed, and the world and the draws afterwards. -/
structure Passage where
  kept : List Action
  turns : List Turn
  world : World
  draws : Draws

/-- The commands given are those that remain of the action. -/
inductive Course (now : UInt64) (texts : Texts) (action : Action) :
    List Instruction → World → Draws → Passage → Prop where
  | finished {world : World} {draws : Draws} :
      Course now texts action [] world draws ⟨[], [], world, draws⟩
  | waits {instruction : Instruction} {rest : List Instruction} {world : World} {draws : Draws} :
      now.toNat < action.dueAt instruction →
      Course now texts action (instruction :: rest) world draws
        ⟨[{ action with rest := instruction :: rest }], [], world, draws⟩
  | abandoned {instruction : Instruction} {rest : List Instruction} {world : World} {draws : Draws}
      {gone : Guid} :
      action.dueAt instruction ≤ now.toNat → action.Needs gone → ¬ world.Present gone →
      Course now texts action (instruction :: rest) world draws ⟨[], [], world, draws⟩
  | terminated {instruction : Instruction} {rest : List Instruction} {world : World}
      {draws left : Draws} {done : Execution} :
      action.dueAt instruction ≤ now.toNat →
      (∀ guid, action.Needs guid → world.Present guid) →
      instruction.execute action.roles world texts draws = (done, left) →
      done.outcome = .ok .terminate →
      Course now texts action (instruction :: rest) world draws
        ⟨[], [⟨action, instruction, now, world⟩], done.world, left⟩
  | proceeds {instruction : Instruction} {rest : List Instruction} {world : World}
      {draws left : Draws} {done : Execution} {later : Passage} :
      action.dueAt instruction ≤ now.toNat →
      (∀ guid, action.Needs guid → world.Present guid) →
      instruction.execute action.roles world texts draws = (done, left) →
      done.outcome ≠ .ok .terminate →
      Course now texts action rest done.world left later →
      Course now texts action (instruction :: rest) world draws
        { later with turns := ⟨action, instruction, now, world⟩ :: later.turns }

section

variable {now : UInt64} {texts : Texts} {action : Action} {commands : List Instruction}
variable {world : World} {draws : Draws}

theorem Course.unique {a b : Passage} (left : Course now texts action commands world draws a)
    (right : Course now texts action commands world draws b) : a = b := by
  -- What each way of going on requires rules out the others.
  induction left generalizing b with
  | finished =>
      cases right
      rfl
  | waits early =>
      cases right with
      | waits => rfl
      | abandoned reached => exact absurd early (Nat.not_lt.mpr reached)
      | terminated reached => exact absurd early (Nat.not_lt.mpr reached)
      | proceeds reached => exact absurd early (Nat.not_lt.mpr reached)
  | abandoned reached needs missing =>
      cases right with
      | waits early => exact absurd early (Nat.not_lt.mpr reached)
      | abandoned => rfl
      | terminated _ present => exact absurd (present _ needs) missing
      | proceeds _ present => exact absurd (present _ needs) missing
  | terminated reached present executed terminate =>
      cases right with
      | waits early => exact absurd early (Nat.not_lt.mpr reached)
      | abandoned _ needs missing => exact absurd (present _ needs) missing
      | terminated _ _ executed' =>
          cases executed.symm.trans executed'
          rfl
      | proceeds _ _ executed' proceed =>
          cases executed.symm.trans executed'
          exact absurd terminate proceed
  | proceeds reached present executed proceed _ ih =>
      cases right with
      | waits early => exact absurd early (Nat.not_lt.mpr reached)
      | abandoned _ needs missing => exact absurd (present _ needs) missing
      | terminated _ _ executed' terminate =>
          cases executed.symm.trans executed'
          exact absurd terminate proceed
      | proceeds _ _ executed' _ course =>
          cases executed.symm.trans executed'
          rw [ih course]

-- The commands executed are the first of those that remain, each was due and nobody was missing when
-- it was executed; what is kept goes on with the others.
theorem Course.turns {passage : Passage}
    (course : Course now texts action commands world draws passage) :
    (∃ left, passage.turns.map Turn.instruction ++ left = commands ∧
      (passage.kept = [] ∨ passage.kept = [{ action with rest := left }])) ∧
    ∀ turn ∈ passage.turns, turn.action = action ∧ turn.now = now ∧
      action.dueAt turn.instruction ≤ now.toNat ∧
      ∀ guid, action.Needs guid → turn.world.Present guid := by
  induction course with
  | finished => exact ⟨⟨[], rfl, .inl rfl⟩, by simp⟩
  | waits early => exact ⟨⟨_, rfl, .inr rfl⟩, by simp⟩
  | abandoned reached needs missing => exact ⟨⟨_, rfl, .inl rfl⟩, by simp⟩
  | terminated reached present _ _ =>
      refine ⟨⟨_, rfl, .inl rfl⟩, ?_⟩
      intro turn member
      cases List.mem_singleton.mp member
      exact ⟨rfl, rfl, reached, present⟩
  | proceeds reached present _ _ _ ih =>
      obtain ⟨⟨left, split, kept⟩, lawful⟩ := ih
      refine ⟨⟨left, congrArg (List.cons _) split, kept⟩, ?_⟩
      intro turn member
      rcases List.mem_cons.mp member with first | later
      · cases first
        exact ⟨rfl, rfl, reached, present⟩
      · exact lawful turn later

end

def ActionRun.passage (run : ActionRun) : Passage where
  kept := run.ending.left.map Prod.snd
  turns := run.turns
  world := run.world
  draws := run.draws

namespace Action

variable (now : UInt64) (texts : Texts)

theorem runRest_course {action : Action} (timely : Timely action.startedAt)
    (rest : List Instruction) (world : World) (draws : Draws) :
    Course now texts action rest world draws
      (action.runRest now texts rest world draws).passage := by
  induction rest generalizing world draws with
  | nil => exact .finished
  | cons instruction rest ih =>
      -- An action compares words, and the rules compare numbers.
      have due := toNat_dueOf timely instruction
      simp only [runRest]
      by_cases early : now < action.dueOf instruction
      · rw [if_pos early]
        exact .waits (by rwa [UInt64.lt_iff_toNat_lt, due] at early)
      rw [if_neg early]
      have reached : action.dueAt instruction ≤ now.toNat := by
        rwa [UInt64.not_lt, UInt64.le_iff_toNat_le, due] at early
      cases absent : action.absentee? world with
      | some gone =>
          obtain ⟨needs, missing⟩ := absentee?_eq_some absent
          exact .abandoned reached needs missing
      | none =>
          have present := absentee?_eq_none.mp absent
          rcases executed : instruction.execute action.roles world texts draws with ⟨done, left⟩
          cases outcome : done.outcome with
          | error error =>
              exact .proceeds reached present executed (by simp [outcome]) (ih done.world left)
          | ok outcome' =>
              cases outcome' with
              | terminate =>
                  exact .terminated reached present executed outcome
              | proceed =>
                  exact .proceeds reached present executed (by simp [outcome]) (ih done.world left)

theorem runRest_ran (action : Action) (rest : List Instruction) (world : World) (draws : Draws) :
    (action.runRest now texts rest world draws).ran =
      (action.runRest now texts rest world draws).turns.length := by
  induction rest generalizing world draws with
  | nil => rfl
  | cons instruction rest ih =>
      simp only [runRest]
      split
      · rfl
      · split
        · rfl
        · split
          · rfl
          · simp [ih]
          · simp [ih]

end Action

/-- One more turn, with the lines that were logged about it, and then the run. -/
def ActionRun.after (run : ActionRun) (turn : Turn) (lines : List LogLine) : ActionRun :=
  { run with
    ran := run.ran + 1
    turns := turn :: run.turns
    log := lines ++ run.log }

namespace Action

variable (action : Action) {now : UInt64} {texts : Texts} {instruction : Instruction}
variable {rest : List Instruction} {world : World} {draws left : Draws} {done : Execution}

def abandonLine (action : Action) (left : Nat) (gone : Guid) : LogLine :=
  .info (s!"{action.title} abandoned with {left + 1} commands left, " ++ s!"{gone} left the world")

def terminateLine (action : Action) (instruction : Instruction) : LogLine :=
  .info s!"{action.title} terminated by script {instruction.key}"

def lines (action : Action) (done : Execution) : List LogLine :=
  match done.outcome with
  | .ok _ => done.log
  | .error error => done.log ++ [action.skipLine error]

/-! The ways in which a run begins. -/

theorem runRest_early (early : now < action.dueOf instruction) :
    action.runRest now texts (instruction :: rest) world draws =
      { ending := .waits (action.dueOf instruction) { action with rest := instruction :: rest }
        world, draws } := by
  simp only [runRest, if_pos early]

theorem runRest_absent (reached : ¬ now < action.dueOf instruction) {gone : Guid}
    (absent : action.absentee? world = some gone) :
    action.runRest now texts (instruction :: rest) world draws =
      { ending := .abandoned gone, world, draws, log := [action.abandonLine rest.length gone] } := by
  simp only [runRest, if_neg reached, absent, abandonLine]

theorem runRest_terminate (reached : ¬ now < action.dueOf instruction)
    (present : action.absentee? world = none)
    (executed : instruction.execute action.roles world texts draws = (done, left))
    (terminate : done.outcome = .ok .terminate) :
    action.runRest now texts (instruction :: rest) world draws =
      { ending := .terminated
        ran := 1
        turns := [⟨action, instruction, now, world⟩]
        world := done.world
        draws := left
        log := done.log ++ [action.terminateLine instruction] } := by
  simp only [runRest, if_neg reached, present, executed, terminate, terminateLine]

theorem runRest_proceed (reached : ¬ now < action.dueOf instruction)
    (present : action.absentee? world = none)
    (executed : instruction.execute action.roles world texts draws = (done, left))
    (proceed : done.outcome ≠ .ok .terminate) :
    action.runRest now texts (instruction :: rest) world draws =
      (action.runRest now texts rest done.world left).after ⟨action, instruction, now, world⟩
        (action.lines done) := by
  simp only [runRest, if_neg reached, present, executed, ActionRun.after, lines]
  cases outcome : done.outcome with
  | error error => simp
  | ok outcome' =>
      cases outcome' with
      | terminate => exact absurd outcome proceed
      | proceed => rfl

theorem command_cases (now : UInt64) (texts : Texts) (instruction : Instruction)
    (world : World) (draws : Draws) :
    now < action.dueOf instruction ∨ ¬ now < action.dueOf instruction ∧
      ((∃ gone, action.absentee? world = some gone) ∨ action.absentee? world = none ∧
        ∃ done left, instruction.execute action.roles world texts draws = (done, left) ∧
          (done.outcome = .ok .terminate ∨ done.outcome ≠ .ok .terminate)) := by
  by_cases early : now < action.dueOf instruction
  · exact .inl early
  · refine .inr ⟨early, ?_⟩
    cases absent : action.absentee? world with
    | some gone => exact .inl ⟨gone, rfl⟩
    | none => exact .inr ⟨rfl, _, _, rfl, Classical.em _⟩

end Action

end WorldScripts
