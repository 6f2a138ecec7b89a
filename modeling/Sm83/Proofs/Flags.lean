import Sm83.Machine.Command
import Sm83.Proofs.Confinement
import Sm83.Proofs.OpcodeTable

set_option autoImplicit false

namespace Sm83

inductive Flag where
  | zero | carry
  deriving DecidableEq, Repr

namespace Flags

def get (flags : Flags) : Flag → Bool
  | .zero => flags.zero
  | .carry => flags.carry

theorem ext_get {flags other : Flags} (same : ∀ flag, flags.get flag = other.get flag) :
    flags = other := by
  obtain ⟨zero, carry⟩ := flags
  obtain ⟨_, _⟩ := other
  cases same .zero
  cases same .carry
  rfl

end Flags

def Condition.flag : Condition → Flag
  | .notZero | .zero => .zero
  | .notCarry | .carry => .carry

theorem Flags.holds_congr {flags other : Flags} {condition : Condition}
    (same : other.get condition.flag = flags.get condition.flag) :
    other.holds condition = flags.holds condition := by
  cases condition <;> simp_all [holds, get, Condition.flag]

namespace Instruction

def readsFlag (flag : Flag) : Instruction → Bool
  | operate .addCarry _ | operate .subCarry _ | shift (.rotate .left) _ | shift (.rotate .right) _
  | rotateAccumulator .left | rotateAccumulator .right | complementCarry => flag = .carry
  | push .af => true
  | jump (some condition) | jumpRelative (some condition) | call (some condition)
  | ret (some condition) => flag = condition.flag
  | _ => false

def writesFlag (flag : Flag) : Instruction → Bool
  | operate _ _ | addStackPointer | loadStackAddress | rotateAccumulator _ | shift _ _
  | pop .af => true
  | addWord _ | complementCarry | setCarry => flag = .carry
  | stepByte _ _ | testBit _ _ => flag = .zero
  | _ => false

def settle (instruction : Instruction) (before written : Flags) : Flags where
  zero := if instruction.writesFlag .zero then written.zero else before.zero
  carry := if instruction.writesFlag .carry then written.carry else before.carry

theorem get_settle (instruction : Instruction) (before written : Flags) (flag : Flag) :
    (instruction.settle before written).get flag =
      if instruction.writesFlag flag then written.get flag else before.get flag := by
  cases flag <;> rfl

end Instruction

def ByteOperand.plain (operand : ByteOperand) : Bool :=
  operand ≠ .indirect .af

def Instruction.plain : Instruction → Bool
  | load target source => target.plain && source.plain
  | loadWord target source => target ≠ .register .af ∧ source ≠ .register .af
  | operate _ operand | stepByte _ operand | shift _ operand | testBit _ operand
  | assignBit _ _ operand => operand.plain
  | addWord source => source ≠ .af
  | stepWord _ target => target ≠ .af
  | _ => true

theorem Encodes.plain {opcodes : List UInt8} {entry : Entry} (encodes : Encodes opcodes entry) :
    entry.instruction.plain :=
  encodes.of_table (fun _ entry => entry.instruction.plain) (by decide +kernel) (by decide +kernel)

namespace Cpu

def withFlags (cpu : Cpu) (flags : Flags) : Cpu :=
  { cpu with flags }

@[simp] theorem withFlags_self (cpu : Cpu) : cpu.withFlags cpu.flags = cpu := rfl

@[simp] theorem flags_withFlags (cpu : Cpu) (flags : Flags) :
    (cpu.withFlags flags).flags = flags := rfl

theorem confined_withFlags (flags : Flags) : Confined .af (withFlags · flags) where
  getByte cpu r := by cases r <;> rfl
  setByte cpu r value := by cases r <;> rfl
  getWord {r} other cpu := by
    cases r with
    | af => exact absurd rfl other
    | _ => rfl
  setWord {r} other cpu value := by
    cases r with
    | af => exact absurd rfl other
    | _ => rfl

end Cpu

open Microcode

-- The arithmetic unit and the shifter replace both flags; what they see of the old ones is the
-- carry, and only where it goes in.
theorem Operation.apply_carry {operation : Operation} {carry other : Bool}
    (same : operation = .addCarry ∨ operation = .subCarry → other = carry) (a value : UInt8) :
    operation.apply a value other = operation.apply a value carry := by
  cases operation with
  | addCarry | subCarry => rw [same (by simp)]
  | _ => rfl

theorem Rotation.apply_carry {rotation : Rotation} {carry other : Bool}
    (same : rotation = .left ∨ rotation = .right → other = carry) (b : UInt8) :
    rotation.apply b other = rotation.apply b carry := by
  cases rotation with
  | left | right => rw [same (by simp)]
  | leftCircular | rightCircular => rfl

theorem Shift.apply_carry {shift : Shift} {carry other : Bool}
    (same : shift = .rotate .left ∨ shift = .rotate .right → other = carry) (b : UInt8) :
    shift.apply b other = shift.apply b carry := by
  cases shift with
  | rotate rotation => exact Rotation.apply_carry (by simpa using same) b
  | _ => rfl

namespace Executed

def settle (instruction : Instruction) (before : Flags) (executed : Executed) : Executed :=
  { executed with cpu := executed.cpu.withFlags (instruction.settle before executed.cpu.flags) }

end Executed

namespace Instruction

open Executed

theorem execute_withFlags {instruction : Instruction} (plain : instruction.plain) {cpu : Cpu}
    {flags : Flags}
    (same : ∀ flag, instruction.readsFlag flag → flags.get flag = cpu.flags.get flag)
    (pc length : UInt16) :
    instruction.execute (cpu.withFlags flags) pc length =
      (instruction.execute cpu pc length).bind fun executed =>
        done (executed.settle instruction flags) := by
  have confined := Cpu.confined_withFlags flags
  cases instruction with
  | nop | loadStackAddress | loadStepping | storeStepping | addStackPointer | complement
  | setCarry | halt | setInterrupts | jumpIndirect | restart | retInterrupt => rfl
  | load target source =>
    obtain ⟨target, source⟩ := (Bool.and_eq_true _ _).mp plain
    simp only [execute, proceed, ByteOperand.fetch_confined confined (of_decide_eq_true source),
      ByteOperand.store_confined confined (of_decide_eq_true target), bind_eq, bind_assoc]
    rfl
  | loadWord target source =>
    obtain ⟨target, source⟩ := of_decide_eq_true plain
    simp only [execute, proceed, WordOperand.fetch_confined confined source,
      WordOperand.store_confined confined target, bind_eq, bind_assoc]
    rfl
  | push source =>
    by_cases pair : source = .af
    next =>
      subst pair
      obtain rfl : flags = cpu.flags := Flags.ext_get fun flag => same flag rfl
      rfl
    next =>
      simp only [execute, confined.getWord pair]
      rfl
  | pop target => cases target <;> rfl
  | operate operation source =>
    have carry : ∀ a value, operation.apply a value flags.carry =
        operation.apply a value cpu.flags.carry := by
      apply Operation.apply_carry
      rintro (rfl | rfl) <;> exact same .carry rfl
    have overwrites : ∀ value, (cpu.withFlags flags).operate operation value =
        cpu.operate operation value := by
      intro value
      simp only [Cpu.operate, Cpu.withFlags, carry]
    simp only [execute, proceed, ByteOperand.fetch_confined confined (of_decide_eq_true plain),
      overwrites, bind_eq, bind_assoc]
    rfl
  | addWord source =>
    simp only [execute, proceed, confined.getWord (of_decide_eq_true plain)]
    rfl
  | stepByte direction target =>
    have plain := of_decide_eq_true plain
    simp only [execute, proceed, ByteOperand.fetch_confined confined plain,
      ByteOperand.store_confined confined plain, bind_eq, bind_assoc]
    rfl
  | stepWord direction target =>
    have other : target ≠ .af := of_decide_eq_true plain
    simp only [execute, proceed, confined.stepWord other]
    cases target with
    | af => exact absurd rfl other
    | _ => rfl
  | complementCarry =>
    have carry : flags.carry = cpu.flags.carry := same .carry rfl
    simp only [execute, proceed, Cpu.withFlags, carry]
    rfl
  | rotateAccumulator rotation =>
    have carry : ∀ b, rotation.apply b flags.carry = rotation.apply b cpu.flags.carry := by
      apply Rotation.apply_carry
      rintro (rfl | rfl) <;> exact same .carry rfl
    simp only [execute, proceed, Cpu.rotateAccumulator, Cpu.withFlags, carry]
    rfl
  | shift s target =>
    have carry : ∀ b, s.apply b flags.carry = s.apply b cpu.flags.carry := by
      apply Shift.apply_carry
      rintro (rfl | rfl) <;> exact same .carry rfl
    have plain := of_decide_eq_true plain
    simp only [execute, proceed, ByteOperand.fetch_confined confined plain, Cpu.flags_withFlags,
      carry, ByteOperand.store_confined confined plain, bind_eq, bind_assoc]
    rfl
  | testBit index source =>
    simp only [execute, proceed, ByteOperand.fetch_confined confined (of_decide_eq_true plain),
      bind_eq, bind_assoc]
    rfl
  | assignBit value index target =>
    have plain := of_decide_eq_true plain
    simp only [execute, proceed, ByteOperand.fetch_confined confined plain,
      ByteOperand.store_confined confined plain, bind_eq, bind_assoc]
    rfl
  | jump condition | jumpRelative condition | call condition | ret condition =>
    have holds : ∀ c ∈ condition, flags.holds c = cpu.flags.holds c :=
      fun c member => Flags.holds_congr (same c.flag (by cases member; simp [readsFlag]))
    exact branch_change (Cpu.withFlags · flags) holds _ rfl

end Instruction

namespace Machine

variable {β : Type} [Bus β] {machine after : Machine β} {instruction : Instruction}
  {pc length : UInt16} {reply : Reply}

def withFlags (machine : Machine β) (flags : Flags) : Machine β :=
  { machine with cpu := machine.cpu.withFlags flags }

theorem apply_withFlags (plain : instruction.plain) {flags : Flags}
    (same : ∀ flag, instruction.readsFlag flag → flags.get flag = machine.cpu.flags.get flag)
    (applied : machine.apply (.execute instruction pc length) = (.ok reply, after)) :
    (machine.withFlags flags).apply (.execute instruction pc length) =
      (.ok reply, after.withFlags (instruction.settle flags after.cpu.flags)) := by
  have executes := Instruction.execute_withFlags plain same pc length
  rw [apply_execute] at applied ⊢
  simp only [withFlags, executes, Microcode.perform_bind]
  rcases performed : (instruction.execute machine.cpu pc length).perform machine.bus machine.log
    with ⟨_ | executed, _, _⟩ <;> rw [performed] at applied <;> cases applied
  rfl

-- With the flags that were there already, nothing changes: the instruction keeps what it does not
-- write.
theorem get_flags_of_not_writesFlag {flag : Flag} (plain : instruction.plain)
    (unwritten : instruction.writesFlag flag = false)
    (applied : machine.apply (.execute instruction pc length) = (.ok reply, after)) :
    after.cpu.flags.get flag = machine.cpu.flags.get flag := by
  have again := apply_withFlags plain (fun _ _ => rfl) applied
  rw [withFlags, Cpu.withFlags_self, applied] at again
  have flags := congrArg (fun ended => ended.2.cpu.flags.get flag) again
  simpa [withFlags, Instruction.get_settle, unwritten] using flags

theorem exists_apply_execute (ordered : instruction.orderly) (machine : Machine β)
    (pc length : UInt16) :
    ∃ next taken after,
      machine.apply (.execute instruction pc length) = (.ok (.executed next taken), after) := by
  have leaves := (Instruction.execute_leaves ordered machine.cpu pc length).perform machine.bus
    machine.log
  rw [apply_execute]
  rcases performed : (instruction.execute machine.cpu pc length).perform machine.bus machine.log
    with ⟨_, _, _⟩
  rw [performed] at leaves
  obtain ⟨executed, _, rfl, -⟩ := leaves
  exact ⟨_, _, _, rfl⟩

end Machine

end Sm83
