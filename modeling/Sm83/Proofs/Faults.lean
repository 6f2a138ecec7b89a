import Sm83.Proofs.Budget
import Sm83.Proofs.InPlace

set_option autoImplicit false

namespace Sm83

namespace Machine

variable {machine after stopped : Machine Memory} {pc last : UInt16} {stepped : Stepped}
  {fault : Fault} {budget : Int}

def Stuck (machine : Machine Memory) (pc : UInt16) : Prop :=
  machine.cpu.halted = false ∧ machine.bus.read pc ∈ unknownOpcodes

theorem answers_stepAccesses (machine : Machine Memory) (pc : UInt16) :
    machine.bus.Answers (machine.stepAccesses pc) :=
  Microcode.answers_trace _ _

theorem bus_of_step_error (step : machine.step pc = (.error fault, stopped)) :
    stopped.bus = machine.bus.replay (machine.stepAccesses pc) := by
  have memory := Microcode.perform_memory (machine.cpu.step pc) machine.bus machine.log
  rwa [(perform_of_step_error step).1] at memory

theorem stuck_of_step_error (step : machine.step pc = (.error fault, stopped)) :
    machine.Stuck pc ∧ fault = .unknownOpcode (machine.bus.read pc) pc false ∧
      stopped = { machine with log := stopped.log } := by
  obtain ⟨running, opcode, unknown, rfl, accesses⟩ := refused_of_step_error step
  have answers := machine.answers_stepAccesses pc
  have cpu := (perform_of_step_error step).2
  have bus := bus_of_step_error step
  rw [accesses] at answers bus
  obtain ⟨rfl, -⟩ := answers
  obtain ⟨_, _, _⟩ := stopped
  cases cpu
  cases bus
  exact ⟨⟨running, unknown⟩, rfl, rfl⟩

theorem not_stuck_of_step_ok (step : machine.step pc = (.ok stepped, after)) :
    ¬ machine.Stuck pc := by
  rintro ⟨running, unknown⟩
  obtain ⟨opcodes, entry, footprint, executes, accesses⟩ := executes_of_step_ok running step
  have encodes := executes.encodes
  have answers := machine.answers_stepAccesses pc
  rw [accesses] at answers
  cases opcodes with
  | nil => cases encodes
  | cons opcode rest =>
    rw [← answers.1] at unknown
    exact encodes.not_mem_unknownOpcodes unknown

theorem step_of_stuck (stuck : machine.Stuck pc) :
    ∃ log, machine.step pc =
      (.error (.unknownOpcode (machine.bus.read pc) pc false), { machine with log }) := by
  match step : machine.step pc with
  | (.ok stepped, after) => exact absurd stuck (not_stuck_of_step_ok step)
  | (.error fault, stopped) =>
    obtain ⟨-, rfl, same⟩ := stuck_of_step_error step
    exact ⟨stopped.log, by rw [← same]⟩

theorem step_of_not_stuck (free : ¬ machine.Stuck pc) :
    ∃ stepped after, machine.step pc = (.ok stepped, after) ∧
      1 ≤ stepped.cost ∧ stepped.cost ≤ 6 := by
  match step : machine.step pc with
  | (.ok stepped, after) => exact ⟨stepped, after, rfl, stepped.cost_pos, (cost_of_step_ok step).1⟩
  | (.error fault, stopped) => exact absurd (stuck_of_step_error step).1 free

theorem run_of_stuck (stuck : machine.Stuck pc) (positive : 0 < budget) :
    ∃ log, machine.run pc budget =
      (.error (.unknownOpcode (machine.bus.read pc) pc false), { machine with log }) := by
  obtain ⟨log, step⟩ := step_of_stuck stuck
  exact ⟨log, by rw [run_of_pos _ _ positive, step]⟩

theorem faults_exact_and_atomic (machine : Machine Memory) (pc : UInt16) :
    (∀ cycles, InWord32 cycles → InWord32 (cycles - 6) →
      (∀ overflow, machine.call overflow (.step pc cycles) = machine.apply (.step pc cycles)) ∧
      if machine.cpu.halted = false ∧ machine.bus.read pc ∈ unknownOpcodes then
        ∃ log, machine.apply (.step pc cycles) =
            (.error (.unknownOpcode (machine.bus.read pc) pc false), { machine with log }) ∧
          InPlace.step pc machine =
            (.error (.fault (.unknownOpcode (machine.bus.read pc) pc false)),
              { machine with log })
      else
        ∃ (progress : Progress) (cost : Nat) (after : Machine Memory),
          machine.apply (.step pc cycles) = (.ok (.progress progress), after) ∧
          InWord32 progress.cycles ∧ progress.cycles = cycles - cost ∧
          InPlace.step pc machine = (.ok (progress.pc, cost), after)) ∧
    ∀ budget fault stopped, machine.run pc budget = (.error fault, stopped) →
      ∃ steps before last, Walk machine pc steps before last ∧ totalCost steps < budget ∧
        (∃ log, stopped = { before with log }) ∧
        fault = .unknownOpcode (stopped.bus.read last) last false ∧
        (∀ again, 0 < again → ∃ log,
          stopped.run last again = (.error fault, { stopped with log })) ∧
        ∀ larger, budget ≤ larger → machine.run pc larger = (.error fault, stopped) := by
  constructor
  next =>
    intro cycles fits spare
    split
    next stuck =>
      have stuck : machine.Stuck pc := stuck
      obtain ⟨log, step⟩ := step_of_stuck stuck
      have applied := apply_step_of_step_error step cycles
      refine ⟨fun overflow => by rw [call, applied]; rfl, log, applied, ?_⟩
      rw [InPlace.step_eq, step]
    next free =>
      have free : ¬ machine.Stuck pc := free
      obtain ⟨stepped, after, step, positive, limited⟩ := step_of_not_stuck free
      have applied := apply_step_of_step_ok step cycles
      have left : InWord32 (cycles - stepped.cost) := by
        rw [inWord32_iff] at fits spare ⊢
        omega
      refine ⟨call_of_fits applied left, _, stepped.cost, after, applied, left, rfl, ?_⟩
      rw [InPlace.step_eq, step]
  next =>
    intro budget fault stopped ran
    obtain ⟨steps, before, last, walk, enough, step⟩ := walk_of_run_error ran
    obtain ⟨stuck, rfl, same⟩ := stuck_of_step_error step
    rw [same] at step ⊢
    refine ⟨steps, before, last, walk, enough, ⟨_, rfl⟩, rfl, ?_, ?_⟩
    next =>
      intro again positive
      have stuck : Machine.Stuck { before with log := stopped.log } last := stuck
      exact run_of_stuck stuck positive
    next =>
      intro larger le
      exact walk.run_error (by omega) step

-- The second opcode is not in the table.
def stumbling : Machine Memory where
  bus := Memory.zero.write 1 0xd3

theorem run_stumbling :
    ∃ stopped, stumbling.run 0 5 = (.error (.unknownOpcode 0xd3 1 false), stopped) := by
  have known : decode 0 = some ⟨.nop, 1, 1, 0, by decide⟩ := rfl
  have unknown : decode 0xd3 = none := rfl
  simp [stumbling, run_of_pos, step, Cpu.step, fetchEntry, Cpu.executeEntry, Microcode.perform,
    Microcode.readByte, Microcode.log, Bus.read, Memory.read_write, known, unknown,
    Instruction.execute, Executed.proceed, Entry.cost]

theorem faults_of_stumbling :
    (∃ log, stumbling.apply (.step 1 0) =
        (.error (.unknownOpcode 0xd3 1 false), { stumbling with log }) ∧
      InPlace.step 1 stumbling =
        (.error (.fault (.unknownOpcode 0xd3 1 false)), { stumbling with log })) ∧
    ∃ stopped, stumbling.run 0 5 = (.error (.unknownOpcode 0xd3 1 false), stopped) ∧
      (∃ steps before, Walk stumbling 0 steps before 1 ∧ totalCost steps < 5 ∧
        ∃ log, stopped = { before with log }) ∧
      stopped.bus.read 1 = 0xd3 ∧
      stumbling.run 0 1000 = (.error (.unknownOpcode 0xd3 1 false), stopped) := by
  have opcode : stumbling.bus.read 1 = 0xd3 := Memory.read_write_self _ _ _
  constructor
  next =>
    have refused := ((faults_exact_and_atomic stumbling 1).1 0 (by decide) (by decide)).2
    rwa [if_pos ⟨rfl, by rw [opcode]; decide⟩, opcode] at refused
  next =>
    obtain ⟨stopped, ran⟩ := run_stumbling
    obtain ⟨steps, before, last, walk, enough, same, found, -, larger⟩ :=
      (faults_exact_and_atomic stumbling 0).2 5 _ stopped ran
    simp only [Fault.unknownOpcode.injEq, and_true] at found
    obtain ⟨found, rfl⟩ := found
    exact ⟨stopped, ran, ⟨steps, before, walk, by omega, same⟩, found.symm, larger 1000 (by decide)⟩

end Machine

end Sm83
