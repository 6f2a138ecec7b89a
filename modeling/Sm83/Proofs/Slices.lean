import Sm83.Proofs.Budget
import Sm83.Proofs.ProgramCounter

set_option autoImplicit false

namespace Sm83

theorem totalCost_append (first second : List Stepped) :
    totalCost (first ++ second) = totalCost first + totalCost second := by
  simp [totalCost]

namespace Machine

variable {β : Type} [Bus β] {machine middle after stopped : Machine β} {pc halfway last : UInt16}
  {budget : Int} {progress : Progress} {fault : Fault} {first second steps : List Stepped}

theorem Walk.append (walk : Walk machine pc first middle halfway)
    (goesOn : Walk middle halfway second after last) :
    Walk machine pc (first ++ second) after last := by
  induction walk with
  | nil => exact goesOn
  | cons step walk ih => exact .cons step (ih goesOn)

theorem Walk.rest (walk : Walk machine pc first middle halfway)
    (whole : Walk machine pc (first ++ second) after last) :
    Walk middle halfway second after last := by
  induction walk with
  | nil => exact whole
  | cons step walk ih =>
    cases whole with
    | cons again whole =>
      rw [step] at again
      cases again
      exact ih whole

def runSteps (machine : Machine β) (pc : UInt16) (budget : Int) : List Stepped :=
  if 0 < budget then
    match machine.step pc with
    | (.ok stepped, after) => stepped :: after.runSteps stepped.next (budget - stepped.cost)
    | (.error _, _) => []
  else []
termination_by budget.toNat
decreasing_by
  have := stepped.cost_pos
  omega

theorem runSteps_of_nonpos (machine : Machine β) (pc : UInt16) (spent : budget ≤ 0) :
    machine.runSteps pc budget = [] := by
  rw [runSteps, if_neg (by omega)]

theorem runSteps_of_step_ok {stepped : Stepped} (positive : 0 < budget)
    (step : machine.step pc = (.ok stepped, after)) :
    machine.runSteps pc budget =
      stepped :: after.runSteps stepped.next (budget - stepped.cost) := by
  rw [runSteps, if_pos positive, step]

theorem runSteps_of_step_error (step : machine.step pc = (.error fault, stopped)) :
    machine.runSteps pc budget = [] := by
  rw [runSteps, step]
  split <;> rfl

theorem Walk.runSteps_eq (walk : Walk machine pc steps after last) (covers : Covers budget steps) :
    machine.runSteps pc budget = steps ++ after.runSteps last (budget - totalCost steps) := by
  induction walk generalizing budget with
  | nil => simp
  | cons step walk ih =>
    rw [runSteps_of_step_ok covers.1 step, ih covers.2, sub_totalCost_cons, List.cons_append]

theorem walk_runSteps_of_ok (ran : machine.run pc budget = (.ok progress, after)) :
    Walk machine pc (machine.runSteps pc budget) after progress.pc ∧
      Covers budget (machine.runSteps pc budget) ∧
      progress.cycles = budget - totalCost (machine.runSteps pc budget) ∧ progress.cycles ≤ 0 := by
  obtain ⟨steps, walk, covers, cycles, spent⟩ := walk_of_run_ok ran
  have made := walk.runSteps_eq covers
  rw [runSteps_of_nonpos after _ (by omega), List.append_nil] at made
  rw [made]
  exact ⟨walk, covers, cycles, spent⟩

theorem walk_runSteps_of_error (ran : machine.run pc budget = (.error fault, stopped)) :
    ∃ before last, Walk machine pc (machine.runSteps pc budget) before last ∧
      totalCost (machine.runSteps pc budget) < budget ∧
      before.step last = (.error fault, stopped) := by
  obtain ⟨steps, before, last, walk, enough, step⟩ := walk_of_run_error ran
  have made := walk.runSteps_eq (Covers.of_totalCost_lt enough)
  rw [runSteps_of_step_error step, List.append_nil] at made
  rw [made]
  exact ⟨before, last, walk, enough, step⟩

def Exhausts (budget : Int) (steps : List Stepped) (after : Machine β) (last : UInt16) : Prop :=
  budget ≤ totalCost steps ∨ ∃ fault stopped, after.step last = (.error fault, stopped)

-- Such a walk goes at least as far as a run with that budget.
theorem Walk.runSteps_prefix (walk : Walk machine pc steps after last)
    (exhausts : Exhausts budget steps after last) : machine.runSteps pc budget <+: steps := by
  -- While some of the budget is left, the run takes the step that the walk takes.
  induction walk generalizing budget with
  | nil machine pc =>
    rcases exhausts with spent | ⟨fault, stopped, step⟩
    next => exact (runSteps_of_nonpos machine pc (by simpa using spent)).symm ▸ List.prefix_rfl
    next => exact (runSteps_of_step_error step).symm ▸ List.prefix_rfl
  | cons step walk ih =>
    by_cases positive : 0 < budget
    next =>
      rw [runSteps_of_step_ok positive step]
      refine (List.prefix_cons_inj _).mpr (ih (exhausts.imp_left fun spent => ?_))
      rw [totalCost_cons] at spent
      omega
    next =>
      rw [runSteps_of_nonpos _ _ (by omega)]
      exact List.nil_prefix

theorem Walk.step_of_run_error (walk : Walk machine pc steps after last)
    (exhausts : Exhausts budget steps after last)
    (ran : machine.run pc budget = (.error fault, stopped)) :
    totalCost steps < budget ∧ after.step last = (.error fault, stopped) := by
  obtain ⟨before, halfway, begun, enough, failed⟩ := walk_runSteps_of_error ran
  obtain ⟨rest, rfl⟩ := walk.runSteps_prefix exhausts
  -- The walk cannot go on from where the run has failed.
  cases begun.rest walk with
  | nil => exact ⟨by rwa [List.append_nil], failed⟩
  | cons step => rw [failed] at step; cases step

def slices (machine : Machine β) (pc : UInt16) (budget : Int) :
    Nat → Except Fault UInt16 × Machine β
  | 0 => (.ok pc, machine)
  | count + 1 =>
    match machine.run pc budget with
    | (.ok progress, after) => after.slices progress.pc budget count
    | (.error fault, stopped) => (.error fault, stopped)

def sliceSteps (machine : Machine β) (pc : UInt16) (budget : Int) : Nat → List Stepped
  | 0 => []
  | count + 1 =>
    machine.runSteps pc budget ++
      match machine.run pc budget with
      | (.ok progress, after) => after.sliceSteps progress.pc budget count
      | (.error _, _) => []

theorem slices_one (machine : Machine β) (pc : UInt16) (budget : Int) :
    machine.slices pc budget 1 =
      ((machine.run pc budget).1.map Progress.pc, (machine.run pc budget).2) := by
  rw [slices]
  rcases machine.run pc budget with ⟨_ | _, _⟩
  next => rfl
  next => rfl

theorem slices_of_nonpos (machine : Machine β) (pc : UInt16) (spent : budget ≤ 0) (count : Nat) :
    machine.slices pc budget count = (.ok pc, machine) := by
  induction count with
  | zero => rfl
  | succ count ih =>
    rw [slices, run_of_nonpos _ _ spent]
    exact ih

theorem sliceSteps_one (machine : Machine β) (pc : UInt16) (budget : Int) :
    machine.sliceSteps pc budget 1 = machine.runSteps pc budget := by
  rw [sliceSteps]
  rcases machine.run pc budget with ⟨_ | _, _⟩ <;> exact List.append_nil _

theorem sliceSteps_of_nonpos (machine : Machine β) (pc : UInt16) (spent : budget ≤ 0)
    (count : Nat) : machine.sliceSteps pc budget count = [] := by
  induction count with
  | zero => rfl
  | succ count ih =>
    rw [sliceSteps, runSteps_of_nonpos _ _ spent, run_of_nonpos _ _ spent]
    exact ih

theorem sliceSteps_eq_nil_iff (machine : Machine β) (pc : UInt16) (budget : Int) (count : Nat) :
    machine.sliceSteps pc budget count = [] ↔
      count = 0 ∨ budget ≤ 0 ∨ ∃ fault stopped, machine.step pc = (.error fault, stopped) := by
  cases count with
  | zero => simp [sliceSteps]
  | succ count =>
    by_cases spent : budget ≤ 0
    next => simp [sliceSteps_of_nonpos machine pc spent, spent]
    next =>
      have positive : 0 < budget := by omega
      match step : machine.step pc with
      | (.error fault, stopped) =>
        simp [sliceSteps, runSteps_of_step_error step, run_of_pos _ _ positive, step]
      | (.ok stepped, after) =>
        simp [sliceSteps, runSteps_of_step_ok positive step, spent]

theorem walk_sliceSteps (machine : Machine β) (pc : UInt16) (budget : Int) (count : Nat) :
    ∃ after last, Walk machine pc (machine.sliceSteps pc budget count) after last ∧
      ((machine.slices pc budget count = (.ok last, after) ∧
          count * budget ≤ totalCost (machine.sliceSteps pc budget count)) ∨
        ∃ fault stopped, machine.slices pc budget count = (.error fault, stopped) ∧
          after.step last = (.error fault, stopped)) := by
  induction count generalizing machine pc with
  | zero => exact ⟨machine, pc, .nil machine pc, .inl ⟨rfl, by simp [sliceSteps]⟩⟩
  | succ count ih =>
    rw [slices, sliceSteps]
    match ran : machine.run pc budget with
    | (.error fault, stopped) =>
      obtain ⟨before, last, walk, -, step⟩ := walk_runSteps_of_error ran
      rw [List.append_nil]
      exact ⟨before, last, walk, .inr ⟨fault, stopped, rfl, step⟩⟩
    | (.ok progress, middle) =>
      obtain ⟨begun, -, cycles, spent⟩ := walk_runSteps_of_ok ran
      obtain ⟨after, last, walk, ending⟩ := ih middle progress.pc
      refine ⟨after, last, begun.append walk, ending.imp_left fun ⟨ended, more⟩ => ⟨ended, ?_⟩⟩
      rw [totalCost_append]
      push_cast
      rw [add_mul, one_mul]
      omega

theorem exists_step_of_slices_error {count : Nat}
    (sliced : machine.slices pc budget count = (.error fault, stopped)) :
    ∃ (before : Machine β) (last : UInt16), before.step last = (.error fault, stopped) := by
  obtain ⟨before, last, -, ⟨ended, -⟩ | ⟨other, halted, failed, step⟩⟩ :=
    walk_sliceSteps machine pc budget count
  next => rw [sliced] at ended; cases ended
  next =>
    rw [sliced] at failed
    cases failed
    exact ⟨before, last, step⟩

theorem totalCost_runSteps_le (machine : Machine β) (pc : UInt16) (nonnegative : 0 ≤ budget) :
    totalCost (machine.runSteps pc budget) ≤ budget + 5 := by
  match ran : machine.run pc budget with
  | (.error fault, stopped) =>
    obtain ⟨before, last, -, enough, -⟩ := walk_runSteps_of_error ran
    omega
  | (.ok progress, after) =>
    obtain ⟨walk, covers, -⟩ := walk_runSteps_of_ok ran
    have overrun := covers.overrun_lt (fun stepped member => (walk.costs stepped member).2)
      (by omega)
    omega

theorem totalCost_sliceSteps_le (machine : Machine β) (pc : UInt16) (nonnegative : 0 ≤ budget)
    (count : Nat) :
    totalCost (machine.sliceSteps pc budget count) ≤ count * (budget + 5) := by
  induction count generalizing machine pc with
  | zero => simp [sliceSteps]
  | succ count ih =>
    have here := machine.totalCost_runSteps_le pc nonnegative
    rw [sliceSteps, totalCost_append]
    push_cast
    rw [add_mul, one_mul]
    match machine.run pc budget with
    | (.error fault, stopped) =>
      have more : 0 ≤ count * (budget + 5) := Int.mul_nonneg (by omega) (by omega)
      simp only [totalCost_nil]
      omega
    | (.ok progress, middle) =>
      have later := ih middle progress.pc
      simp only
      omega

variable {count : Nat}

theorem runSteps_prefix_sliceSteps (machine : Machine β) (pc : UInt16) (budget : Int)
    (count : Nat) :
    machine.runSteps pc (count * budget) <+: machine.sliceSteps pc budget count := by
  obtain ⟨after, last, walk, ending⟩ := walk_sliceSteps machine pc budget count
  refine walk.runSteps_prefix (ending.imp And.right ?_)
  exact fun ⟨fault, stopped, _, step⟩ => ⟨fault, stopped, step⟩

theorem slices_of_run_error (ran : machine.run pc (count * budget) = (.error fault, stopped)) :
    machine.slices pc budget count = (.error fault, stopped) := by
  obtain ⟨after, last, walk, ⟨-, spent⟩ | ⟨other, halted, sliced, step⟩⟩ :=
    walk_sliceSteps machine pc budget count
  next =>
    have enough := (walk.step_of_run_error (.inl spent) ran).1
    omega
  next =>
    have failed := (walk.step_of_run_error (.inr ⟨other, halted, step⟩) ran).2
    rw [step] at failed
    cases failed
    exact sliced

theorem walk_of_slices_ok (sliced : machine.slices pc budget count = (.ok last, after)) :
    Walk machine pc (machine.sliceSteps pc budget count) after last ∧
      count * budget ≤ totalCost (machine.sliceSteps pc budget count) := by
  obtain ⟨reached, next, walk, ⟨ended, spent⟩ | ⟨fault, stopped, failed, -⟩⟩ :=
    walk_sliceSteps machine pc budget count
  next =>
    rw [sliced] at ended
    cases ended
    exact ⟨walk, spent⟩
  next =>
    rw [sliced] at failed
    cases failed

-- Where the single run has spent its budget, the slices come by, and may go on.
theorem exists_walk_of_run_ok (ran : machine.run pc (count * budget) = (.ok progress, middle))
    (sliced : machine.slices pc budget count = (.ok last, after)) :
    ∃ rest, Walk middle progress.pc rest after last := by
  obtain ⟨rest, made⟩ := machine.runSteps_prefix_sliceSteps pc budget count
  have begun := (walk_runSteps_of_ok ran).1
  exact ⟨rest, begun.rest (made ▸ (walk_of_slices_ok sliced).1)⟩

def sliceCourse (machine : Machine β) (pc : UInt16) (budget : Int) (count : Nat) :
    List (Except Fault Reply × Machine β) :=
  machine.course pc (List.replicate count (.run budget))

theorem sliceCourse_succ_of_ok (ran : machine.run pc budget = (.ok progress, after)) :
    machine.sliceCourse pc budget (count + 1) =
      (.ok (.progress progress), after) :: after.sliceCourse progress.pc budget count := by
  simp only [sliceCourse, List.replicate_succ, course, Call.command, apply, ran, Except.map]

theorem sliceCourse_succ_of_error (ran : machine.run pc budget = (.error fault, stopped)) :
    machine.sliceCourse pc budget (count + 1) = [(.error fault, stopped)] := by
  simp only [sliceCourse, List.replicate_succ, course, Call.command, apply, ran, Except.map]

theorem mem_sliceCourse_of_run_error (ran : machine.run pc budget = (.error fault, stopped))
    (count : Nat) : (.error fault, stopped) ∈ machine.sliceCourse pc budget (count + 1) := by
  rw [sliceCourse_succ_of_error ran]
  exact List.mem_singleton.mpr rfl

theorem slices_of_course_error
    (failed : (.error fault, stopped) ∈ machine.sliceCourse pc budget count) :
    machine.slices pc budget count = (.error fault, stopped) := by
  induction count generalizing machine pc with
  | zero => cases failed
  | succ count ih =>
    rw [slices]
    match ran : machine.run pc budget with
    | (.error other, halted) =>
      rw [sliceCourse_succ_of_error ran, List.mem_singleton] at failed
      cases failed
      rfl
    | (.ok progress, middle) =>
      rw [sliceCourse_succ_of_ok ran, List.mem_cons] at failed
      exact ih (failed.resolve_left fun same => by cases same)

theorem slices_of_course_ok
    (succeeds : ∀ fault stopped, (.error fault, stopped) ∉ machine.sliceCourse pc budget count) :
    machine.slices pc budget count =
      (.ok (((machine.sliceCourse pc budget count).filterMap (standing ·.1)).getLastD pc),
        ((machine.sliceCourse pc budget count).map Prod.snd).getLastD machine) := by
  induction count generalizing machine pc with
  | zero => rfl
  | succ count ih =>
    rw [slices]
    match ran : machine.run pc budget with
    | (.error fault, stopped) =>
      rw [sliceCourse_succ_of_error ran] at succeeds
      exact absurd (List.mem_singleton.mpr rfl) (succeeds fault stopped)
    | (.ok progress, middle) =>
      rw [sliceCourse_succ_of_ok ran] at succeeds ⊢
      simp only [List.filterMap_cons, standing, List.map_cons, List.getLastD_cons]
      exact ih fun fault stopped member => succeeds fault stopped (List.mem_cons_of_mem _ member)

end Machine

end Sm83
