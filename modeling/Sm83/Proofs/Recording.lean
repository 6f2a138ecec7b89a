import Sm83.Proofs.StepFootprint
import Sm83.Proofs.Walk

set_option autoImplicit false

namespace Sm83.Machine

variable {β : Type}

def recording (machine : Machine β) (accesses : Array Access) : Machine (Recorder β) :=
  ⟨machine.cpu, ⟨machine.bus, accesses⟩, machine.log⟩

variable [Bus β]

def accesses (machine : Machine β) (pc : UInt16) (budget : Int) : List Access :=
  ((machine.recording #[]).run pc budget).2.bus.accesses.toList

theorem step_recording (machine : Machine β) (accesses : Array Access) (pc : UInt16) :
    (machine.recording accesses).step pc =
      ((machine.step pc).1,
        (machine.step pc).2.recording (accesses ++ (machine.stepAccesses pc).toArray)) := by
  obtain ⟨cpu, bus, log⟩ := machine
  simp only [recording, step, stepAccesses, Microcode.perform_recorder]
  rcases (cpu.step pc).perform bus log with ⟨_ | _, _, _⟩
  next => rfl
  next => rfl

theorem exists_run_recording (machine : Machine β) (pc : UInt16) (budget : Int) :
    ∃ made : List Access, ∀ accesses, (machine.recording accesses).run pc budget =
      ((machine.run pc budget).1,
        (machine.run pc budget).2.recording (accesses ++ made.toArray)) := by
  induction machine, pc, budget using run_induction with
  | spent machine pc budget spent =>
    refine ⟨[], fun accesses => ?_⟩
    simp [run_of_nonpos _ _ spent]
  | stepped machine pc budget positive ih =>
    match step : machine.step pc with
    | (.error fault, stopped) =>
      refine ⟨machine.stepAccesses pc, fun accesses => ?_⟩
      simp [run_of_pos _ _ positive, step_recording, step]
    | (.ok stepped, after) =>
      obtain ⟨rest, continues⟩ := ih stepped after step
      refine ⟨machine.stepAccesses pc ++ rest, fun accesses => ?_⟩
      simp [run_of_pos _ _ positive, step_recording, step, continues]

theorem run_recording (machine : Machine β) (accesses : Array Access) (pc : UInt16)
    (budget : Int) :
    (machine.recording accesses).run pc budget =
      ((machine.run pc budget).1,
        (machine.run pc budget).2.recording (accesses ++ (machine.accesses pc budget).toArray)) := by
  obtain ⟨made, recorded⟩ := exists_run_recording machine pc budget
  have own : machine.accesses pc budget = made := by
    rw [Machine.accesses, recorded]
    simp [recording]
  rw [own, recorded]

theorem accesses_of_nonpos (machine : Machine β) (pc : UInt16) {budget : Int}
    (spent : budget ≤ 0) : machine.accesses pc budget = [] := by
  rw [accesses, run_of_nonpos _ _ spent]
  rfl

theorem accesses_of_step_ok {machine after : Machine β} {pc : UInt16} {stepped : Stepped}
    {budget : Int} (positive : 0 < budget) (step : machine.step pc = (.ok stepped, after)) :
    machine.accesses pc budget =
      machine.stepAccesses pc ++ after.accesses stepped.next (budget - stepped.cost) := by
  rw [accesses, run_of_pos _ _ positive, step_recording, step]
  simp only [run_recording]
  simp [recording]

theorem accesses_of_step_error {machine stopped : Machine β} {pc : UInt16} {fault : Fault}
    {budget : Int} (positive : 0 < budget) (step : machine.step pc = (.error fault, stopped)) :
    machine.accesses pc budget = machine.stepAccesses pc := by
  simp only [accesses, run_of_pos _ _ positive, step_recording, step]
  simp [recording]

-- What is accessed on the way does not depend on the budget.
theorem Walk.exists_accesses {machine after : Machine β} {pc last : UInt16} {steps : List Stepped}
    (walk : Walk machine pc steps after last) :
    ∃ made : List Access, made.length ≤ totalCost steps ∧ ∀ budget, Covers budget steps →
      machine.accesses pc budget = made ++ after.accesses last (budget - totalCost steps) := by
  induction walk with
  | nil => exact ⟨[], by simp, by simp⟩
  | @cons machine middle after pc last stepped rest step walk ih =>
    obtain ⟨others, bound, continues⟩ := ih
    have first := (cost_of_step_ok step).2
    refine ⟨machine.stepAccesses pc ++ others, ?_, fun budget covers => ?_⟩
    next =>
      rw [List.length_append, totalCost_cons]
      omega
    next =>
      rw [accesses_of_step_ok covers.1 step, continues _ covers.2, sub_totalCost_cons,
        List.append_assoc]

end Sm83.Machine
