import Sm83.Proofs.Flags

set_option autoImplicit false

namespace Sm83

open Microcode

def Cpu.blank (flags : Flags) : Cpu := { flags }

theorem Cpu.getByte_blank (flags : Flags) (r : ByteRegister) : (blank flags).getByte r = 0 := by
  cases r <;> rfl

theorem subBorrow_self {α : Type} [FixedWidth α] (value : α) (borrow : Bool) :
    (subBorrow value value borrow).2 = borrow := by
  cases borrow <;> simp [subBorrow]

theorem bit_zero (index : Fin 8) : bit 0 index = false := by
  revert index
  decide

theorem Shift.apply_zero_carry (s : Shift) (carry : Bool) : (s.apply 0 carry).2 = false := by
  cases s with
  | rotate rotation => cases rotation <;> rfl
  | _ => rfl

theorem Shift.apply_zero (s : Shift) : (s.apply 0 false).1 = 0 := by
  cases s with
  | rotate rotation => cases rotation <;> rfl
  | _ => rfl

namespace ByteOperand

variable {operand : ByteOperand} {cpu : Cpu}

theorem perform_fetch_zero (clear : ∀ r, operand = .register r → cpu.getByte r = 0) (pc : UInt16)
    (log : Log) :
    (operand.fetch cpu pc).perform Memory.zero log = ⟨.ok 0, Memory.zero, log⟩ := by
  cases operand with
  | register r => simp [fetch, place, Place.fetch, perform, clear r rfl]
  | immediate | absolute | indirect | highPage | highPageImmediate =>
    simp [fetch, place, Place.fetch, perform, readByte, readWord, Bus.read]

theorem exists_perform_store (writable : operand ≠ .immediate) (cpu : Cpu) (pc : UInt16)
    (value : UInt8) (memory : Memory) (log : Log) :
    ∃ after bus, (operand.store cpu pc value).perform memory log = ⟨.ok after, bus, log⟩ := by
  cases operand with
  | immediate => exact absurd rfl writable
  | register | absolute | indirect | highPage | highPageImmediate => exact ⟨_, _, rfl⟩

end ByteOperand

namespace Instruction

open Executed

def Changes (instruction : Instruction) (flag : Flag) : Prop :=
  ∃ (machine : Machine Memory) (pc length : UInt16),
    (machine.apply (.execute instruction pc length)).2.cpu.flags.get flag ≠
      machine.cpu.flags.get flag

def Yields (instruction : Instruction) (cpu : Cpu) (flag : Flag) (value : Bool) : Prop :=
  ∃ executed, ((instruction.execute cpu 0 0).perform Memory.zero {}).result = .ok executed ∧
    executed.cpu.flags.get flag = value

theorem Changes.of_yields {instruction : Instruction} {flag : Flag} {value : Bool} (cpu : Cpu)
    (yields : instruction.Yields cpu flag value) (differs : value ≠ cpu.flags.get flag) :
    instruction.Changes flag := by
  obtain ⟨executed, performed, rfl⟩ := yields
  refine ⟨⟨cpu, .zero, {}⟩, 0, 0, ?_⟩
  rw [Machine.apply_execute]
  rcases ended : (instruction.execute cpu 0 0).perform Memory.zero {} with ⟨_, _, _⟩
  rw [ended] at performed
  cases performed
  exact differs

namespace Yields

variable {cpu : Cpu} {operand : ByteOperand}
  (clear : ∀ r, operand = .register r → cpu.getByte r = 0)
include clear

theorem operate (operation : Operation) (flag : Flag) :
    (operate operation operand).Yields cpu flag ((cpu.operate operation 0).flags.get flag) := by
  simp only [Yields, execute, proceed, bind_eq, pure_eq, perform_bind,
    ByteOperand.perform_fetch_zero clear, perform]
  exact ⟨_, rfl, rfl⟩

theorem testBit (index : Fin 8) : (testBit index operand).Yields cpu .zero (!bit 0 index) := by
  simp only [Yields, execute, proceed, bind_eq, pure_eq, perform_bind,
    ByteOperand.perform_fetch_zero clear, perform]
  exact ⟨_, rfl, rfl⟩

variable (writable : operand ≠ .immediate)
include writable

theorem stepByte (direction : Direction) :
    (stepByte direction operand).Yields cpu .zero (direction.byte 0 = 0) := by
  obtain ⟨after, bus, stores⟩ :=
    ByteOperand.exists_perform_store writable cpu 0 (direction.byte 0) .zero {}
  simp only [Yields, execute, proceed, bind_eq, pure_eq, perform_bind,
    ByteOperand.perform_fetch_zero clear, perform, stores]
  exact ⟨_, rfl, rfl⟩

theorem shift (s : Shift) (flag : Flag) :
    (shift s operand).Yields cpu flag
      (let (result, carry) := s.apply 0 cpu.flags.carry
      (cpu.noteShift result carry).flags.get flag) := by
  obtain ⟨after, bus, stores⟩ :=
    ByteOperand.exists_perform_store writable cpu 0 (s.apply 0 cpu.flags.carry).1 .zero {}
  simp only [Yields, execute, proceed, bind_eq, pure_eq, perform_bind,
    ByteOperand.perform_fetch_zero clear, perform, stores]
  exact ⟨_, rfl, by cases flag <;> rfl⟩

end Yields

-- A borrow that is taken from equal bytes comes out as it went in.
theorem not_changes_subtract_self :
    ¬ (operate .subCarry (.register .a)).Changes .carry := by
  rintro ⟨machine, pc, length, differs⟩
  exact differs (subBorrow_self machine.cpu.a machine.cpu.flags.carry)

theorem changes_carry {instruction : Instruction} (ordered : instruction.orderly)
    (writes : instruction.writesFlag .carry)
    (other : instruction ≠ .operate .subCarry (.register .a)) : instruction.Changes .carry := by
  have clear := Cpu.getByte_blank { carry := true }
  cases instruction with
  | operate operation operand =>
    by_cases borrows : operation = .subCarry
    next =>
      subst borrows
      have one : ∀ r, operand = .register r →
          Cpu.getByte { a := 1, flags := { carry := true } } r = 0 := by
        rintro r rfl
        cases r with
        | a => exact absurd rfl other
        | _ => rfl
      exact Changes.of_yields _ (Yields.operate one .subCarry .carry) (by decide)
    next =>
      refine Changes.of_yields _ (Yields.operate (fun r _ => clear r) operation .carry) ?_
      cases operation with
      | subCarry => exact absurd rfl borrows
      | _ => decide
  | shift s operand =>
    have writable : operand ≠ .immediate := by rintro rfl; cases ordered
    refine Changes.of_yields _ (Yields.shift (fun r _ => clear r) writable s .carry) ?_
    simp [Cpu.noteShift, Flags.get, Shift.apply_zero_carry, Cpu.blank]
  | rotateAccumulator rotation =>
    refine Changes.of_yields (.blank { carry := true }) ⟨_, rfl, rfl⟩ ?_
    cases rotation <;> decide
  | addWord source =>
    refine Changes.of_yields (.blank { carry := true }) ⟨_, rfl, rfl⟩ ?_
    cases source <;> decide
  | addStackPointer | loadStackAddress =>
    exact Changes.of_yields (.blank { carry := true }) ⟨_, rfl, rfl⟩ (by decide)
  | pop target =>
    cases target with
    | af => exact Changes.of_yields (.blank { carry := true }) ⟨_, rfl, rfl⟩ (by decide)
    | _ => cases writes
  | complementCarry | setCarry =>
    exact Changes.of_yields (.blank {}) ⟨_, rfl, rfl⟩ (by decide)
  | _ => cases writes

theorem changes_zero {instruction : Instruction} (ordered : instruction.orderly)
    (writes : instruction.writesFlag .zero) : instruction.Changes .zero := by
  have clear := Cpu.getByte_blank {}
  cases instruction with
  | operate operation operand =>
    refine Changes.of_yields _ (Yields.operate (fun r _ => clear r) operation .zero) ?_
    cases operation <;> decide
  | shift s operand =>
    have writable : operand ≠ .immediate := by rintro rfl; cases ordered
    refine Changes.of_yields _ (Yields.shift (fun r _ => clear r) writable s .zero) ?_
    simp [Cpu.noteShift, Flags.get, Shift.apply_zero, Cpu.blank]
  | testBit index operand =>
    refine Changes.of_yields _ (Yields.testBit (fun r _ => clear r) index) ?_
    simp [bit_zero, Flags.get, Cpu.blank]
  | stepByte direction operand =>
    have writable : operand ≠ .immediate := by rintro rfl; cases ordered
    have clear := Cpu.getByte_blank { zero := true }
    refine Changes.of_yields _ (Yields.stepByte (fun r _ => clear r) writable direction) ?_
    cases direction <;> decide
  | rotateAccumulator | addStackPointer | loadStackAddress =>
    exact Changes.of_yields (.blank { zero := true }) ⟨_, rfl, rfl⟩ Bool.false_ne_true
  | pop target =>
    cases target with
    | af => exact Changes.of_yields (.blank { zero := true }) ⟨_, rfl, rfl⟩ (by decide)
    | _ => cases writes
  | _ => cases writes

theorem changes_iff {instruction : Instruction} (plain : instruction.plain)
    (ordered : instruction.orderly) (flag : Flag) :
    instruction.Changes flag ↔
      instruction.writesFlag flag ∧
        (flag = .carry → instruction ≠ .operate .subCarry (.register .a)) := by
  constructor
  next =>
    intro changes
    constructor
    next =>
      obtain ⟨machine, pc, length, differs⟩ := changes
      obtain ⟨next, taken, after, applied⟩ :=
        Machine.exists_apply_execute ordered machine pc length
      rw [applied] at differs
      cases writes : instruction.writesFlag flag with
      | true => rfl
      | false => exact absurd (Machine.get_flags_of_not_writesFlag plain writes applied) differs
    next =>
      rintro rfl rfl
      exact not_changes_subtract_self changes
  next =>
    rintro ⟨writes, other⟩
    cases flag with
    | zero => exact changes_zero ordered writes
    | carry => exact changes_carry ordered writes (other rfl)

end Instruction

namespace Machine

/-- Of the flags, an instruction of the table uses those that it reads only: with others it does the
same to the registers and the bus. It keeps the flags that it does not write and replaces the
others, and it does change each flag that it writes, unless it subtracts the accumulator and the
carry from the accumulator. -/
theorem flags_not_stale {β : Type} [Bus β] {opcodes : List UInt8} {entry : Entry}
    (encodes : Encodes opcodes entry) (machine : Machine β) (pc length : UInt16) :
    (∃ next taken after,
      machine.apply (.execute entry.instruction pc length) = (.ok (.executed next taken), after) ∧
      (∀ flag, entry.instruction.writesFlag flag = false →
        after.cpu.flags.get flag = machine.cpu.flags.get flag) ∧
      ∀ flags,
        (∀ flag, entry.instruction.readsFlag flag →
          flags.get flag = machine.cpu.flags.get flag) →
        (machine.withFlags flags).apply (.execute entry.instruction pc length) =
          (.ok (.executed next taken),
            after.withFlags (entry.instruction.settle flags after.cpu.flags))) ∧
    ∀ flag, entry.instruction.Changes flag ↔
      entry.instruction.writesFlag flag ∧
        (flag = .carry → entry.instruction ≠ .operate .subCarry (.register .a)) := by
  have plain := encodes.plain
  have ordered := encodes.sound.orderly
  constructor
  next =>
    obtain ⟨next, taken, after, applied⟩ := exists_apply_execute ordered machine pc length
    refine ⟨next, taken, after, applied, ?_, ?_⟩
    next =>
      intro flag unwritten
      exact get_flags_of_not_writesFlag plain unwritten applied
    next =>
      intro flags same
      exact apply_withFlags plain same applied
  next => exact Instruction.changes_iff plain ordered

theorem flags_not_stale_adding :
    ∃ after : Machine Memory,
      (Machine.mk { a := 0xff, flags := { carry := true } } Memory.zero {}).apply
          (.execute (.operate .addCarry (.register .b)) 0x0150 1) =
        (.ok (.executed 0x0151 false), after) ∧
      (Machine.mk { a := 0xff, flags := { zero := true, carry := true } } Memory.zero {}).apply
          (.execute (.operate .addCarry (.register .b)) 0x0150 1) =
        (.ok (.executed 0x0151 false), after) := by
  have encodes : Encodes [0x88] ⟨.operate .addCarry (.register .b), 1, 1, 0, by decide⟩ :=
    .single rfl
  obtain ⟨⟨next, taken, after, applied, -, same⟩, -⟩ := flags_not_stale encodes
    ⟨{ a := 0xff, flags := { carry := true } }, Memory.zero, {}⟩ 0x0150 1
  have moved := same { zero := true, carry := true } (by rintro (_ | _) reads <;> trivial)
  cases applied
  exact ⟨_, rfl, moved⟩

end Machine

end Sm83
