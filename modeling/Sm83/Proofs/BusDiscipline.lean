import Sm83.Proofs.Recording

set_option autoImplicit false

namespace Sm83.Machine

variable {β : Type}

theorem exists_recording (machine : Machine (Recorder β)) :
    ∃ (plain : Machine β) (accesses : Array Access), machine = plain.recording accesses := by
  obtain ⟨cpu, ⟨bus, accesses⟩, log⟩ := machine
  exact ⟨⟨cpu, bus, log⟩, accesses, rfl⟩

variable [Bus β] {machine : Machine β} {accesses : Array Access} {after : Machine (Recorder β)}
  {pc : UInt16} {stepped : Stepped} {budget : Int} {progress : Progress}

theorem step_of_recording (step : (machine.recording accesses).step pc = (.ok stepped, after)) :
    ∃ plain, machine.step pc = (.ok stepped, plain) ∧
      after.bus.accesses.toList = accesses.toList ++ machine.stepAccesses pc := by
  rw [step_recording] at step
  obtain ⟨succeeded, rfl⟩ := Prod.mk.inj step
  exact ⟨_, Prod.ext succeeded rfl, by simp [recording]⟩

theorem run_of_recording
    (ran : (machine.recording accesses).run pc budget = (.ok progress, after)) :
    ∃ plain, machine.run pc budget = (.ok progress, plain) ∧
      after.bus.accesses.toList = accesses.toList ++ machine.accesses pc budget := by
  rw [run_recording] at ran
  obtain ⟨succeeded, rfl⟩ := Prod.mk.inj ran
  exact ⟨_, Prod.ext succeeded rfl, by simp [recording]⟩

theorem length_accesses_le {plain : Machine β}
    (ran : machine.run pc budget = (.ok progress, plain)) :
    (machine.accesses pc budget).length ≤ budget - progress.cycles := by
  obtain ⟨steps, walk, covers, cycles, spent⟩ := walk_of_run_ok ran
  obtain ⟨made, paid, recorded⟩ := walk.exists_accesses
  rw [recorded budget covers, accesses_of_nonpos _ _ (by omega), List.append_nil]
  omega

theorem accesses_disciplined (machine : Machine (Recorder β)) (pc : UInt16) :
    (machine.cpu.halted = false → ∀ stepped after, machine.step pc = (.ok stepped, after) →
      ∃ opcodes entry operands reads writes made,
        Encodes opcodes entry ∧
        after.bus.accesses.toList = machine.bus.accesses.toList ++ made ∧
        made = (Footprint.mk (opcodes ++ operands) reads writes).accesses pc ∧
        (opcodes ++ operands).length =
          (if entry.instruction.declines machine.cpu.flags then opcodes.length else entry.length) ∧
        reads.map Prod.fst = (if entry.instruction.declines machine.cpu.flags then []
          else entry.instruction.reads machine.cpu operands) ∧
        writes.map Prod.fst = (if entry.instruction.declines machine.cpu.flags then []
          else entry.instruction.writes machine.cpu operands) ∧
        writes.length ≤ 2 ∧ made.length ≤ stepped.cost) ∧
    ∀ budget progress after, machine.run pc budget = (.ok progress, after) →
      ∃ made, after.bus.accesses.toList = machine.bus.accesses.toList ++ made ∧
        made.length ≤ budget - progress.cycles := by
  obtain ⟨machine, accesses, rfl⟩ := exists_recording machine
  constructor
  next =>
    intro running stepped after step
    change machine.cpu.halted = false at running
    obtain ⟨plain, step, recorded⟩ := step_of_recording step
    obtain ⟨opcodes, entry, footprint, executes, made⟩ := executes_of_step_ok running step
    have paid := (cost_of_step_ok step).2
    rw [executes.accesses_eq pc] at made
    have few : footprint.writes.length ≤ 2 := by
      rw [← List.length_map Prod.fst, executes.touches.map_writes]
      split
      next => simp
      next => exact Instruction.length_writes_le _ _ _
    exact ⟨opcodes, entry, _, _, _, _, executes.encodes, recorded, made, executes.length_eq,
      executes.touches.map_reads, executes.touches.map_writes, few, paid⟩
  next =>
    intro budget progress after ran
    obtain ⟨plain, ran, recorded⟩ := run_of_recording ran
    exact ⟨_, recorded, length_accesses_le ran⟩

-- A call with a stack pointer of zero, so that the return address goes to the top of memory.
def calling : Machine (Recorder Memory) where
  bus := { bus := Memory.zero.write 2 0xcd }

theorem step_calling :
    ∃ stepped, (calling.step 2).1 = .ok stepped ∧
      (calling.step 2).2.bus.accesses.toList =
        [.read 2 0xcd, .read 3 0, .read 4 0, .write 0xfffe 5, .write 0xffff 0] := by
  have known : decode 0xcd = some ⟨.call none, 3, 6, 0, by decide⟩ := rfl
  have pushed : (-2 : UInt16) = 0xfffe := by decide
  have low : lowByte 5 = 5 := by decide
  have high : highByte 5 = 0 := by decide
  simp [calling, step, Cpu.step, fetchEntry, Cpu.executeEntry, Cpu.push, Microcode.perform,
    Microcode.readByte, Microcode.readWord, Microcode.writeByte, Microcode.writeWord, Microcode.log,
    Bus.read, Bus.write, Memory.read_write, known, pushed, low, high, Instruction.execute,
    Executed.branch, Instruction.transferCall, Entry.cost]

theorem accesses_disciplined_calling :
    calling.cpu.halted = false ∧ ∃ stepped after, calling.step 2 = (.ok stepped, after) ∧
      5 ≤ stepped.cost ∧ ∃ opcodes entry operands reads writes, Encodes opcodes entry ∧
        (opcodes ++ operands).length =
          (if entry.instruction.declines calling.cpu.flags then opcodes.length else entry.length) ∧
        writes.length ≤ 2 ∧
        [.read 2 0xcd, .read 3 0, .read 4 0, .write 0xfffe 5, .write 0xffff 0] =
          (Footprint.mk (opcodes ++ operands) reads writes).accesses 2 := by
  have running : calling.cpu.halted = false := rfl
  obtain ⟨stepped, succeeded, seen⟩ := step_calling
  rcases step : calling.step 2 with ⟨result, after⟩
  rw [step] at succeeded seen
  cases succeeded
  obtain ⟨opcodes, entry, operands, reads, writes, made, encodes, recorded, ordered, length, -, -,
    few, paid⟩ := (accesses_disciplined calling 2).1 running stepped after step
  have gained : after.bus.accesses.toList = made := recorded
  rw [← gained, seen] at ordered paid
  exact ⟨running, stepped, after, rfl, paid, opcodes, entry, operands, reads, writes, encodes, length,
    few, ordered⟩

end Sm83.Machine
