import Sm83.Proofs.InPlace
import Sm83.Proofs.OpcodeTable

set_option autoImplicit false

namespace Sm83

open Microcode

namespace Microcode

variable {α γ : Type}

def Succeeds (code : Microcode α) : Prop :=
  code.Ensures fun _ ending => ∃ value, ending = .ok value

theorem Succeeds.bind {code : Microcode α} {f : α → Microcode γ} (first : code.Succeeds)
    (second : ∀ value, (f value).Succeeds) : (code.bind f).Succeeds := by
  apply Ensures.bind first
  next => exact fun _ value _ => second value
  next => rintro _ _ ⟨_, ⟨⟩⟩

theorem Succeeds.exists_perform {β : Type} [Bus β] {code : Microcode α} (succeeds : code.Succeeds)
    (bus : β) (log : Log) :
    ∃ value after log', code.perform bus log = ⟨.ok value, after, log'⟩ := by
  have ended := Ensures.perform succeeds bus log
  rcases performed : code.perform bus log with ⟨_, _, _⟩
  rw [performed] at ended
  obtain ⟨value, rfl⟩ := ended
  exact ⟨value, _, _, rfl⟩

theorem readWord_succeeds (address : UInt16) : (readWord address).Succeeds :=
  fun _ _ => ⟨_, rfl⟩

end Microcode

namespace ByteOperand

variable (operand : ByteOperand) (cpu : Cpu) (pc : UInt16)

theorem place_succeeds : (operand.place cpu pc).Succeeds := by
  cases operand with
  | immediate | indirect | register | highPage => exact ⟨_, rfl⟩
  | absolute => exact (readWord_succeeds _).bind fun _ => ⟨_, rfl⟩
  | highPageImmediate => exact fun _ => ⟨_, rfl⟩

theorem fetch_succeeds : (operand.fetch cpu pc).Succeeds := by
  apply (operand.place_succeeds cpu pc).bind
  rintro (_ | _ | _)
  next => exact ⟨_, rfl⟩
  next => exact fun _ => ⟨_, rfl⟩
  next => exact fun _ => ⟨_, rfl⟩

variable {operand} in
theorem store_succeeds (writable : operand ≠ .immediate) (value : UInt8) :
    (operand.store cpu pc value).Succeeds := by
  cases operand with
  | immediate => exact absurd rfl writable
  | register | indirect | highPage => exact ⟨_, rfl⟩
  | absolute => exact fun _ _ => ⟨_, rfl⟩
  | highPageImmediate => exact fun _ => ⟨_, rfl⟩

theorem exists_perform_fetch (memory : Memory) (log : Log) :
    ∃ value, (operand.fetch cpu pc).perform memory log = ⟨.ok value, memory, log⟩ := by
  cases operand <;> exact ⟨_, rfl⟩

end ByteOperand

namespace WordOperand

variable (operand : WordOperand) (cpu : Cpu) (pc : UInt16)

theorem fetch_succeeds : (operand.fetch cpu pc).Succeeds := by
  cases operand with
  | immediate => exact readWord_succeeds _
  | absolute => exact (readWord_succeeds _).bind readWord_succeeds
  | register => exact ⟨_, rfl⟩

variable {operand} in
theorem store_succeeds (writable : operand ≠ .immediate) (value : UInt16) :
    (operand.store cpu pc value).Succeeds := by
  cases operand with
  | immediate => exact absurd rfl writable
  | absolute => exact (readWord_succeeds _).bind fun _ => ⟨_, rfl⟩
  | register => exact ⟨_, rfl⟩

theorem exists_perform_fetch (memory : Memory) (log : Log) :
    ∃ value, (operand.fetch cpu pc).perform memory log = ⟨.ok value, memory, log⟩ := by
  cases operand <;> exact ⟨_, rfl⟩

end WordOperand

namespace Instruction

open Executed

def writesImmediate : Instruction → Bool
  | load target _ => target = .immediate
  | loadWord target _ => target = .immediate
  | stepByte _ target | shift _ target | assignBit _ _ target => target = .immediate
  | _ => false

variable {instruction : Instruction}

theorem perform_execute_of_writesImmediate (writes : instruction.writesImmediate) (cpu : Cpu)
    (pc length : UInt16) (memory : Memory) (log : Log) :
    (instruction.execute cpu pc length).perform memory log =
      ⟨.error .immediateWrite, memory, log⟩ := by
  cases instruction with
  | load target source =>
    obtain rfl := of_decide_eq_true writes
    obtain ⟨value, fetches⟩ := source.exists_perform_fetch cpu pc memory log
    simp only [execute, proceed, bind_eq, perform_bind, fetches]
    rfl
  | loadWord target source =>
    obtain rfl := of_decide_eq_true writes
    obtain ⟨value, fetches⟩ := source.exists_perform_fetch cpu pc memory log
    simp only [execute, proceed, bind_eq, perform_bind, fetches]
    rfl
  | stepByte _ target | shift _ target | assignBit _ _ target =>
    obtain rfl := of_decide_eq_true writes
    rfl
  | _ => cases writes

theorem proceed_succeeds (next : UInt16) {code : Microcode Cpu} (succeeds : code.Succeeds) :
    (proceed next code).Succeeds :=
  succeeds.bind fun _ => ⟨_, rfl⟩

theorem branch_succeeds (cpu : Cpu) (next : UInt16) (condition : Option Condition)
    {transfer : Microcode Executed} (succeeds : transfer.Succeeds) :
    (branch cpu next condition transfer).Succeeds := by
  cases condition with
  | none => exact succeeds
  | some condition =>
    by_cases holds : cpu.flags.holds condition
    next =>
      rw [branch, if_pos holds]
      exact succeeds.bind fun _ => ⟨_, rfl⟩
    next =>
      rw [branch, if_neg holds]
      exact ⟨_, rfl⟩

theorem execute_succeeds (spares : instruction.writesImmediate = false) (cpu : Cpu)
    (pc length : UInt16) : (instruction.execute cpu pc length).Succeeds := by
  cases instruction with
  | nop | push | storeStepping | addWord | stepWord | complement | complementCarry | setCarry | halt
  | setInterrupts | rotateAccumulator | jumpIndirect | restart => exact ⟨_, rfl⟩
  | loadStackAddress | loadStepping | addStackPointer => exact fun _ => ⟨_, rfl⟩
  | pop | retInterrupt => exact fun _ _ => ⟨_, rfl⟩
  | load target source =>
    exact proceed_succeeds _ ((source.fetch_succeeds cpu pc).bind fun value =>
      ByteOperand.store_succeeds cpu pc (of_decide_eq_false spares) value)
  | loadWord target source =>
    exact proceed_succeeds _ ((source.fetch_succeeds cpu pc).bind fun value =>
      WordOperand.store_succeeds cpu pc (of_decide_eq_false spares) value)
  | operate _ source | testBit _ source =>
    exact proceed_succeeds _ ((source.fetch_succeeds cpu pc).bind fun _ => ⟨_, rfl⟩)
  | stepByte _ target | shift _ target =>
    exact proceed_succeeds _ ((target.fetch_succeeds cpu pc).bind fun _ =>
      (ByteOperand.store_succeeds cpu pc (of_decide_eq_false spares) _).bind fun _ => ⟨_, rfl⟩)
  | assignBit _ _ target =>
    exact proceed_succeeds _ ((target.fetch_succeeds cpu pc).bind fun _ =>
      ByteOperand.store_succeeds cpu pc (of_decide_eq_false spares) _)
  | jump condition | call condition | ret condition =>
    exact branch_succeeds cpu _ condition fun _ _ => ⟨_, rfl⟩
  | jumpRelative condition => exact branch_succeeds cpu _ condition fun _ => ⟨_, rfl⟩

end Instruction

namespace Machine

/-- An instruction breaks off exactly when it is to write to the bytes that follow its own opcode,
and then the machine is as it was, although it is changed in place. No opcode stands for such an
instruction, and no operand is ever without an address. -/
theorem immediate_writes_exact_and_atomic (machine : Machine Memory) (instruction : Instruction)
    (pc length : UInt16) :
    (if instruction.writesImmediate then
      instruction.inPlace pc length machine = (.error (.fault .immediateWrite), machine) ∧
      machine.apply (.execute instruction pc length) = (.error .immediateWrite, machine)
    else
      ∃ next taken after,
        instruction.inPlace pc length machine = (.ok (next, taken), after) ∧
        machine.apply (.execute instruction pc length) = (.ok (.executed next taken), after)) ∧
    (∀ opcode, ∀ entry ∈ decode opcode, entry.instruction.writesImmediate = false) ∧
    ∀ opcode, (decodeExtended opcode).instruction.writesImmediate = false := by
  refine ⟨?_, ?_, ?_⟩
  next =>
    rw [apply_execute, Instruction.inPlace_eq, InPlace.atOnce_apply]
    obtain ⟨cpu, memory, log⟩ := machine
    split
    next writes =>
      rw [Instruction.perform_execute_of_writesImmediate writes]
      exact ⟨rfl, rfl⟩
    next spares =>
      have spares := Bool.eq_false_iff.mpr spares
      have succeeds := Instruction.execute_succeeds spares cpu pc length
      obtain ⟨executed, after, log', performed⟩ := succeeds.exists_perform memory log
      rw [performed]
      exact ⟨_, _, _, rfl, rfl⟩
  next => exact forall_opcode (by decide +kernel)
  next => exact forall_opcode (by decide +kernel)

-- A rotation of the byte after the opcode, which would have cleared the zero flag.
def rotating : Machine Memory where
  cpu := { flags := { zero := true, carry := true } }
  bus := Memory.zero.write 1 0x80

theorem immediate_writes_exact_and_atomic_rotating :
    (Instruction.shift (.rotate .left) .immediate).inPlace 0 2 rotating =
      (.error (.fault .immediateWrite), rotating) ∧
    rotating.apply (.execute (.shift (.rotate .left) .immediate) 0 2) =
      (.error .immediateWrite, rotating) ∧
    ∃ entry ∈ decode 0x36, entry.instruction = .load (.indirect .hl) .immediate ∧
      entry.instruction.writesImmediate = false := by
  have writes : (Instruction.shift (.rotate .left) .immediate).writesImmediate := rfl
  obtain ⟨breaks, spares, -⟩ := immediate_writes_exact_and_atomic rotating
    (.shift (.rotate .left) .immediate) 0 2
  rw [if_pos writes] at breaks
  obtain ⟨inPlace, applied⟩ := breaks
  exact ⟨inPlace, applied, _, rfl, rfl, spares 0x36 _ rfl⟩

end Machine

end Sm83
