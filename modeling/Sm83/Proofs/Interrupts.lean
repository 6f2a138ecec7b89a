import Sm83.Proofs.Dispatch
import Sm83.Proofs.Locality
import Sm83.Proofs.ProgramCounter

set_option autoImplicit false

namespace Sm83.Machine

variable {machine : Machine Memory} {pc vector : UInt16} {budget : Int}

theorem exists_apply_step_return (running : machine.cpu.halted = false)
    (handler : machine.bus.read pc = 0xd9) :
    let target := machine.bus.readWord machine.cpu.sp
    ∃ log, ∀ cycles, machine.apply (.step pc cycles) = (.ok (.progress ⟨target, cycles - 4⟩),
      ⟨{ machine.cpu with interruptsEnabled := true, sp := machine.cpu.sp + 2, pc := target },
        machine.bus, log⟩) := by
  have known : decode 0xd9 = some ⟨.retInterrupt, 1, 4, 0, by decide⟩ := rfl
  rw [← handler] at known
  obtain ⟨log, step⟩ := exists_apply_step running known rfl (fun _ => rfl) rfl 0
  exact ⟨log, fun cycles => apply_step_of_apply_step step cycles⟩

theorem exists_interrupt_return (running : machine.cpu.halted = false)
    (enabled : machine.cpu.interruptsEnabled = true) (handler : machine.bus.read vector = 0xd9)
    (low : vector ≠ machine.cpu.sp - 2) (high : vector ≠ machine.cpu.sp - 1) (pc : UInt16) :
    ∃ entered log,
      (∀ cycles, machine.apply (.interrupt pc cycles vector) =
        (.ok (.progress ⟨vector, cycles - 5⟩), entered)) ∧
      ∀ cycles, entered.apply (.step vector cycles) = (.ok (.progress ⟨pc, cycles - 4⟩),
        ⟨machine.cpu.withPc pc, machine.bus.writeWord (machine.cpu.sp - 2) pc, log⟩) := by
  have entered := apply_interrupt_of_enabled machine enabled pc
  have next : machine.cpu.sp - 2 + 1 = machine.cpu.sp - 1 := by grind
  have kept : (machine.bus.writeWord (machine.cpu.sp - 2) pc).read vector = 0xd9 := by
    rw [Memory.read_writeWord_of_ne _ _ low (by rwa [next]), handler]
  let serving : Machine Memory := (machine.apply (.interrupt pc 0 vector)).2
  have cpu : serving.cpu = _ := congrArg (fun result => result.2.cpu) (entered 0 vector)
  have bus : serving.bus = machine.bus.writeWord (machine.cpu.sp - 2) pc :=
    congrArg (fun result => result.2.bus) (entered 0 vector)
  obtain ⟨log, returned⟩ := @exists_apply_step_return serving vector (by rw [cpu])
    (by rw [bus, kept])
  have target : serving.bus.readWord serving.cpu.sp = pc := by
    rw [cpu, bus]
    exact Memory.readWord_writeWord_self _ _ _
  have restored : machine.cpu.sp - 2 + 2 = machine.cpu.sp := by grind
  refine ⟨serving, log, fun cycles => ?_, fun cycles => ?_⟩
  next => rw [entered]; exact Prod.ext rfl (congrArg Prod.snd (entered 0 vector)).symm
  next => rw [returned, target, cpu, bus, restored, Cpu.withPc, ← enabled, ← running]

-- A run cannot tell another memory by bytes that it does not ask for, nor the stored address and
-- the log; where the memories agreed they still do.
theorem run_of_agree {machine other : Machine Memory} {field : UInt16}
    (cpu : other.cpu = machine.cpu.withPc field)
    (agree : ∀ address, FirstRead (machine.accesses pc budget) address →
      other.bus.read address = machine.bus.read address) :
    (other.run pc budget).1 = (machine.run pc budget).1 ∧
      (∃ last, (other.run pc budget).2.cpu = (machine.run pc budget).2.cpu.withPc last) ∧
      ∀ address, other.bus.read address = machine.bus.read address →
        (other.run pc budget).2.bus.read address = (machine.run pc budget).2.bus.read address := by
  -- The memory is exchanged first, then the stored address, then the log.
  obtain ⟨final, answers⟩ := accounts_of_run machine pc budget
  obtain ⟨moved, -⟩ := run_onto (answers.of_agree agree)
  have stored : SameButPc (machine.onto other.bus) ((machine.onto other.bus).withPc field) :=
    ⟨field, rfl⟩
  have logged : Matches ((machine.onto other.bus).withPc field) other := ⟨cpu.symm, rfl⟩
  obtain ⟨first, last, between⟩ := stepsAlike_sameButPc.run stored pc budget
  obtain ⟨second, ends⟩ := performsAlike_matches.steps.run logged pc budget
  rw [moved] at first between
  rw [between] at ends
  refine ⟨(first.trans second).symm, ⟨last, ends.cpu.symm⟩, fun address agrees => ?_⟩
  rw [← ends.bus, final]
  exact Memory.read_replay_congr (.inr agrees)

-- The return address straddles address zero.
def straddling : Machine Memory where
  cpu := { sp := 1, interruptsEnabled := true }
  bus := Memory.zero.write 0x40 0xd9

theorem accesses_straddling : straddling.accesses 0x0123 1 = [.read 0x0123 0] := by
  have known : decode 0 = some ⟨.nop, 1, 1, 0, by decide⟩ := rfl
  simp [straddling, accesses, recording, run_of_pos, run_of_nonpos, step, Cpu.step, fetchEntry,
    Cpu.executeEntry, Microcode.perform, Microcode.readByte, Microcode.log, Bus.read,
    Memory.read_write, known, Instruction.execute, Executed.proceed, Entry.cost]

end Sm83.Machine
