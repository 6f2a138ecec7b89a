import Sm83.Step

set_option autoImplicit false

namespace Sm83

structure Machine (β : Type) where
  cpu : Cpu := {}
  bus : β
  log : Log := {}

namespace Machine

variable {α β : Type} [Bus β]

def perform (machine : Machine β) (code : Cpu → Microcode (α × Cpu)) :
    Except Fault α × Machine β :=
  let ⟨cpu, bus, log⟩ := machine
  match (code cpu).perform bus log with
  | ⟨.ok (value, cpu), bus, log⟩ => (.ok value, ⟨cpu, bus, log⟩)
  | ⟨.error fault, bus, log⟩ => (.error fault, ⟨cpu, bus, log⟩)

def step (machine : Machine β) (pc : UInt16) : Except Fault Stepped × Machine β :=
  let ⟨cpu, bus, log⟩ := machine
  match (cpu.step pc).perform bus log with
  | ⟨.ok stepped, bus, log⟩ => (.ok stepped, ⟨stepped.cpu, bus, log⟩)
  | ⟨.error fault, bus, log⟩ => (.error fault, ⟨cpu, bus, log⟩)

theorem step_of_halted (machine : Machine β) (pc : UInt16) (halted : machine.cpu.halted = true) :
    machine.step pc =
      (.ok { cpu := { machine.cpu with pc }, next := pc, cost := 1, cost_pos := by decide },
        { machine with cpu := { machine.cpu with pc } }) := by
  obtain ⟨cpu, bus, log⟩ := machine
  simp_all [step, Cpu.step, Microcode.perform]

def run (machine : Machine β) (pc : UInt16) (budget : Int) : Except Fault Progress × Machine β :=
  if 0 < budget then
    if machine.cpu.halted then
      (.ok ⟨pc, 0⟩, { machine with cpu := { machine.cpu with pc } })
    else
      match machine.step pc with
      | (.ok stepped, machine) => machine.run stepped.next (budget - stepped.cost)
      | (.error fault, machine) => (.error fault, machine)
  else
    (.ok ⟨pc, budget⟩, machine)
termination_by budget.toNat
decreasing_by
  have := stepped.cost_pos
  omega

theorem run_of_nonpos (machine : Machine β) (pc : UInt16) {budget : Int} (spent : budget ≤ 0) :
    machine.run pc budget = (.ok ⟨pc, budget⟩, machine) := by
  rw [run, if_neg (by omega)]

theorem run_of_halted (machine : Machine β) (pc : UInt16) {budget : Int} (positive : 0 < budget)
    (halted : machine.cpu.halted = true) :
    machine.run pc budget = (.ok ⟨pc, 0⟩, { machine with cpu := { machine.cpu with pc } }) := by
  rw [run, if_pos positive, if_pos halted]

-- That a halted processor lets the budget pass at once is the same as stepping through it.
theorem run_of_pos (machine : Machine β) (pc : UInt16) {budget : Int} (positive : 0 < budget) :
    machine.run pc budget =
      match machine.step pc with
      | (.ok stepped, machine) => machine.run stepped.next (budget - stepped.cost)
      | (.error fault, machine) => (.error fault, machine) := by
  by_cases halted : machine.cpu.halted = true
  next =>
    rw [run_of_halted machine pc positive halted, step_of_halted machine pc halted]
    let idle : Machine β := { machine with cpu := { machine.cpu with pc } }
    change _ = idle.run pc (budget - 1)
    by_cases more : 0 < budget - 1
    next => rw [run_of_halted idle pc more halted]
    next =>
      have last : budget - 1 = 0 := by omega
      rw [last, run_of_nonpos idle pc (by decide)]
  next => rw [run, if_pos positive, if_neg halted]

theorem run_induction {motive : Machine β → UInt16 → Int → Prop}
    (spent : ∀ machine pc budget, budget ≤ 0 → motive machine pc budget)
    (stepped : ∀ machine pc budget, 0 < budget →
      (∀ stepped after, machine.step pc = (.ok stepped, after) →
        motive after stepped.next (budget - stepped.cost)) →
      motive machine pc budget)
    (machine : Machine β) (pc : UInt16) (budget : Int) : motive machine pc budget := by
  by_cases positive : 0 < budget
  next =>
    apply stepped machine pc budget positive
    intro result after _
    have := result.cost_pos
    exact run_induction spent stepped after result.next (budget - result.cost)
  next => exact spent machine pc budget (by omega)
termination_by budget.toNat

def load (machine : Machine β) (address : UInt16) (program : List UInt8) :
    Except Fault Unit × Machine β :=
  machine.perform fun cpu => do
    loadProgram address program
    return ((), cpu)

end Machine

end Sm83
