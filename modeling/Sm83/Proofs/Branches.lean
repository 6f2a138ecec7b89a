import Sm83.Proofs.Dispatch

set_option autoImplicit false

namespace Sm83

open Microcode hiding perform

inductive Transfer where
  | jump | relative | call | ret
  deriving DecidableEq, Repr

namespace Transfer

def instruction : Transfer → Option Condition → Instruction
  | jump => .jump
  | relative => .jumpRelative
  | call => .call
  | ret => .ret

def opcode : Transfer → Option Condition → UInt8
  | jump, none => 0xc3
  | jump, some .notZero => 0xc2
  | jump, some .zero => 0xca
  | jump, some .notCarry => 0xd2
  | jump, some .carry => 0xda
  | relative, none => 0x18
  | relative, some .notZero => 0x20
  | relative, some .zero => 0x28
  | relative, some .notCarry => 0x30
  | relative, some .carry => 0x38
  | call, none => 0xcd
  | call, some .notZero => 0xc4
  | call, some .zero => 0xcc
  | call, some .notCarry => 0xd4
  | call, some .carry => 0xdc
  | ret, none => 0xc9
  | ret, some .notZero => 0xc0
  | ret, some .zero => 0xc8
  | ret, some .notCarry => 0xd0
  | ret, some .carry => 0xd8

def length : Transfer → UInt16
  | jump | call => 3
  | relative => 2
  | ret => 1

def cost : Transfer → Nat
  | jump => 4
  | relative => 3
  | call => 6
  | ret => 4

def takenCost : Transfer → Nat
  | ret => ret.cost + 1
  | transfer => transfer.cost

def declinedCost : Transfer → Nat
  | jump => 3
  | relative => 2
  | call => 3
  | ret => 2

def target (machine : Machine Memory) (pc : UInt16) : Transfer → UInt16
  | jump | call => machine.bus.readWord (pc + 1)
  | relative => relativeTarget pc (machine.bus.read (pc + 1))
  | ret => machine.bus.readWord machine.cpu.sp

def cpu (cpu : Cpu) : Transfer → Cpu
  | jump | relative => cpu
  | call => { cpu with sp := cpu.sp - 2 }
  | ret => { cpu with sp := cpu.sp + 2 }

def memory (machine : Machine Memory) (pc : UInt16) : Transfer → Memory
  | jump | relative | ret => machine.bus
  | call => machine.bus.writeWord (machine.cpu.sp - 2) (pc + 3)

theorem exists_entry_none (transfer : Transfer) :
    ∃ entry, decode (transfer.opcode none) = some entry ∧
      entry.instruction = transfer.instruction none ∧
      UInt16.ofNat entry.length = transfer.length ∧ entry.cost false = transfer.cost := by
  cases transfer with
  | jump | relative | call | ret => exact ⟨_, rfl, rfl, rfl, rfl⟩

theorem exists_entry_some (transfer : Transfer) (condition : Condition) :
    ∃ entry, decode (transfer.opcode (some condition)) = some entry ∧
      entry.instruction = transfer.instruction (some condition) ∧
      UInt16.ofNat entry.length = transfer.length ∧
      entry.cost true = transfer.takenCost ∧ entry.cost false = transfer.declinedCost := by
  cases transfer with
  | jump | relative | call | ret => cases condition <;> exact ⟨_, rfl, rfl, rfl, rfl, rfl⟩

variable (transfer : Transfer) {condition : Condition} {cpu : Cpu}

theorem execute_of_holds (holds : cpu.flags.holds condition = true) (pc : UInt16) :
    (transfer.instruction (some condition)).execute cpu pc transfer.length =
      ((transfer.instruction none).execute cpu pc transfer.length).bind fun executed =>
        .done { executed with taken := true } := by
  cases transfer with
  | jump | relative | call | ret => exact if_pos holds

theorem execute_of_fails (fails : cpu.flags.holds condition = false) (pc : UInt16) :
    (transfer.instruction (some condition)).execute cpu pc transfer.length =
      .done { cpu, next := pc + transfer.length } := by
  have fails : ¬ cpu.flags.holds condition = true := by simp [fails]
  cases transfer with
  | jump | relative | call | ret => exact if_neg fails

theorem perform_execute (machine : Machine Memory) (pc : UInt16) (log : Log) :
    ((transfer.instruction none).execute machine.cpu pc transfer.length).perform machine.bus log =
      ⟨.ok { cpu := transfer.cpu machine.cpu, next := transfer.target machine pc },
        transfer.memory machine pc, log⟩ := by
  cases transfer with
  | jump | relative | call | ret => rfl

end Transfer

namespace Machine

variable {machine : Machine Memory} {pc : UInt16} {transfer : Transfer} {condition : Condition}

theorem exists_apply_step_plain (running : machine.cpu.halted = false)
    (stands : machine.bus.read pc = transfer.opcode none) (cycles : Int) :
    ∃ after, machine.apply (.step pc cycles) =
      (.ok (.progress ⟨transfer.target machine pc, cycles - transfer.cost⟩), after) := by
  obtain ⟨entry, known, instruction, occupies, cost⟩ := transfer.exists_entry_none
  rw [← stands] at known
  have performed := transfer.perform_execute machine pc
  rw [← instruction] at performed
  obtain ⟨log, step⟩ := exists_apply_step running known occupies performed cost cycles
  exact ⟨_, step⟩

theorem exists_apply_step_taken (running : machine.cpu.halted = false)
    (stands : machine.bus.read pc = transfer.opcode (some condition))
    (holds : machine.cpu.flags.holds condition = true) (cycles : Int) :
    let target := transfer.target machine pc
    (∃ log, machine.apply (.step pc cycles) =
      (.ok (.progress ⟨target, cycles - transfer.takenCost⟩),
        ⟨{ transfer.cpu machine.cpu with pc := target }, transfer.memory machine pc, log⟩)) ∧
    machine.stepAccesses pc = .read pc (machine.bus.read pc) ::
      ((transfer.instruction none).execute machine.cpu pc transfer.length).trace machine.bus := by
  obtain ⟨entry, known, instruction, occupies, taken, -⟩ := transfer.exists_entry_some condition
  rw [← stands] at known
  have executes := transfer.execute_of_holds holds pc
  rw [← instruction] at executes
  constructor
  next =>
    have performed : ∀ log, (entry.instruction.execute machine.cpu pc transfer.length).perform
        machine.bus log = ⟨.ok ⟨transfer.cpu machine.cpu, transfer.target machine pc, true⟩,
          transfer.memory machine pc, log⟩ := by
      intro log
      rw [executes, perform_bind, transfer.perform_execute]
      rfl
    exact exists_apply_step running known occupies performed taken cycles
  next =>
    rw [stepAccesses_of_decode running known, occupies, executes]
    rw [trace_bind_of_quiet _ fun _ _ => rfl]

theorem exists_apply_step_declined (running : machine.cpu.halted = false)
    (stands : machine.bus.read pc = transfer.opcode (some condition))
    (fails : machine.cpu.flags.holds condition = false) (cycles : Int) :
    (∃ log, machine.apply (.step pc cycles) =
      (.ok (.progress ⟨pc + transfer.length, cycles - transfer.declinedCost⟩),
        ⟨{ machine.cpu with pc := pc + transfer.length }, machine.bus, log⟩)) ∧
    machine.stepAccesses pc = [.read pc (machine.bus.read pc)] := by
  obtain ⟨entry, known, instruction, occupies, -, declined⟩ := transfer.exists_entry_some condition
  rw [← stands] at known
  have executes := transfer.execute_of_fails fails pc
  rw [← instruction] at executes
  constructor
  next =>
    have performed : ∀ log, (entry.instruction.execute machine.cpu pc transfer.length).perform
        machine.bus log = ⟨.ok ⟨machine.cpu, pc + transfer.length, false⟩, machine.bus, log⟩ := by
      intro log
      rw [executes]
      rfl
    exact exists_apply_step running known occupies performed declined cycles
  next =>
    rw [stepAccesses_of_decode running known, occupies, executes]
    rfl

-- A call at the end of whose operand the stack stands: the return address goes over the target.
def overlapping : Machine Memory where
  cpu := { flags := { zero := true }, sp := 0x0103 }
  bus := ((Memory.zero.write 0x0100 0xcc).write 0x0101 0x34).write 0x0102 0x12

def overlappingPlain : Machine Memory :=
  { overlapping with bus := overlapping.bus.write 0x0100 0xcd }

theorem read_overlapping :
    overlapping.bus.read 0x0100 = Transfer.call.opcode (some .zero) := by
  simp [overlapping, Memory.read_write, Transfer.opcode]

theorem target_overlapping : Transfer.call.target overlapping 0x0100 = 0x1234 := by
  simp [Transfer.target, Memory.readWord, overlapping, Memory.read_write]
  decide

end Machine

end Sm83
