import Sm83.Proofs.Loads
import Sm83.Proofs.StraightLine

set_option autoImplicit false

namespace Sm83

namespace Memory

theorem write_write (memory : Memory) (address : UInt16) (first second : UInt8) :
    (memory.write address first).write address second = memory.write address second := by
  apply Memory.ext
  intro place
  by_cases here : place = address <;> simp [read_write, here]

theorem write_read (memory : Memory) (address : UInt16) :
    memory.write address (memory.read address) = memory := by
  apply Memory.ext
  intro place
  by_cases here : place = address <;> simp [read_write, here]

end Memory

namespace Machine

def withNamed (machine : Machine Memory) (digit : Fin 8) (value : UInt8) (flags : Flags) :
    Machine Memory :=
  let deposit := Deposit.named machine.cpu value digit
  ⟨{ deposit.cpu machine.cpu with flags }, deposit.memory machine.bus, machine.log⟩

section WithNamed

variable (machine : Machine Memory) (digit : Fin 8) (value other : UInt8) (flags more : Flags)

@[simp] theorem flags_withNamed : (machine.withNamed digit value flags).cpu.flags = flags := rfl

@[simp] theorem named_withNamed : (machine.withNamed digit value flags).named digit = value := by
  match digit with
  | 0 | 1 | 2 | 3 | 4 | 5 | 7 => rfl
  | 6 => exact Memory.read_write_self _ _ _

@[simp] theorem withNamed_withNamed :
    (machine.withNamed digit value flags).withNamed digit other more =
      machine.withNamed digit other more := by
  match digit with
  | 0 | 1 | 2 | 3 | 4 | 5 | 7 => rfl
  | 6 => exact congrArg (Machine.mk _ · _) (Memory.write_write ..)

theorem withNamed_named (flags : Flags) :
    machine.withNamed digit (machine.named digit) flags =
      { machine with cpu := { machine.cpu with flags } } := by
  match digit with
  | 0 | 1 | 2 | 3 | 4 | 5 | 7 => rfl
  | 6 => exact congrArg (Machine.mk _ · _) (Memory.write_read ..)

@[simp] theorem withNamed_self :
    machine.withNamed digit (machine.named digit) machine.cpu.flags = machine :=
  machine.withNamed_named digit machine.cpu.flags

theorem withNamed_flags (value : UInt8) :
    let deposit := Deposit.named machine.cpu value digit
    machine.withNamed digit value machine.cpu.flags =
      ⟨deposit.cpu machine.cpu, deposit.memory machine.bus, machine.log⟩ := by
  match digit with
  | 0 | 1 | 2 | 3 | 4 | 5 | 6 | 7 => rfl

end WithNamed

theorem foldl_eq_withNamed {ω : Type} {digit : Fin 8} {edit : Machine Memory → ω → Machine Memory}
    (edits : ∀ machine operation, ∃ value flags,
      edit machine operation = machine.withNamed digit value flags)
    (machine : Machine Memory) (operations : List ω) :
    let final := operations.foldl edit machine
    final = machine.withNamed digit (final.named digit) final.cpu.flags := by
  induction operations generalizing machine with
  | nil => exact (machine.withNamed_self digit).symm
  | cons operation rest ih =>
    intro final
    obtain ⟨value, flags, edited⟩ := edits machine operation
    calc final = (edit machine operation).withNamed digit (final.named digit) final.cpu.flags :=
          ih (edit machine operation)
      _ = machine.withNamed digit (final.named digit) final.cpu.flags := by
          rw [edited, withNamed_withNamed]

def shifted (machine : Machine Memory) (digit : Fin 8) (s : Shift) : Machine Memory :=
  let (result, carry) := s.apply (machine.named digit) machine.cpu.flags.carry
  machine.withNamed digit result { zero := result = 0, carry }

theorem named_shifted (machine : Machine Memory) (digit : Fin 8) (s : Shift) :
    (machine.shifted digit s).named digit =
      (s.apply (machine.named digit) machine.cpu.flags.carry).1 := named_withNamed ..

theorem carry_shifted (machine : Machine Memory) (digit : Fin 8) (s : Shift) :
    (machine.shifted digit s).cpu.flags.carry =
      (s.apply (machine.named digit) machine.cpu.flags.carry).2 := rfl

theorem perform_shift (machine : Machine Memory) (digit : Fin 8) (s : Shift) (pc length : UInt16)
    (log : Log) :
    ((Instruction.shift s (Opcode.operand digit)).execute machine.cpu pc length).perform
        machine.bus log =
      ⟨.ok ⟨(machine.shifted digit s).cpu, pc + length, false⟩, (machine.shifted digit s).bus,
        log⟩ := by
  simp only [Instruction.execute, Executed.proceed, Microcode.bind_eq, Microcode.bind_assoc,
    Microcode.perform_bind, perform_fetch_operand, Deposit.perform_store_operand]
  rfl

theorem apply_shift (machine : Machine Memory) (digit : Fin 8) (s : Shift) (pc length : UInt16) :
    machine.apply (.execute (.shift s (Opcode.operand digit)) pc length) =
      (.ok (.executed (pc + length) false), machine.shifted digit s) := by
  rw [apply_execute, perform_shift]
  rfl

theorem after_shift (machine : Machine Memory) (digit : Fin 8) (s : Shift) :
    machine.after (.shift s (Opcode.operand digit)) = machine.shifted digit s :=
  congrArg Prod.snd (machine.apply_shift digit s 0 0)

theorem exists_apply_step_proceeding {machine after : Machine Memory} {instruction : Instruction}
    {pc : UInt16} (running : machine.cpu.halted = false) (extended : machine.bus.read pc = 0xcb)
    (selects : (decodeExtended (machine.bus.read (pc + 1))).instruction = instruction)
    (performed : ∀ log, (instruction.execute machine.cpu pc 2).perform machine.bus log =
      ⟨.ok ⟨after.cpu, pc + 2, false⟩, after.bus, log⟩)
    (cycles : Int) :
    ∃ (log : Log) (cost : Nat), machine.apply (.step pc cycles) =
      (.ok (.progress ⟨pc + 2, cycles - cost⟩),
        ⟨{ after.cpu with pc := pc + 2 }, after.bus, log⟩) := by
  subst selects
  obtain ⟨log, stepped⟩ := exists_apply_step_extended running extended rfl performed rfl cycles
  exact ⟨log, _, stepped⟩

end Machine

theorem Instruction.straight_shift (digit : Fin 8) (s : Shift) :
    (shift s (Opcode.operand digit)).Straight := by
  intro machine pc length
  rw [machine.apply_shift, machine.after_shift]

theorem Instruction.straight_stepWord (direction : Direction) (r : WordRegister) :
    (stepWord direction r).Straight := fun _ _ _ => rfl

end Sm83
