import Sm83.Proofs.Dispatch

set_option autoImplicit false

namespace Sm83

open Microcode hiding perform

structure Computed where
  accumulator : Int
  zero : Bool
  carry : Bool
  deriving DecidableEq, Repr

namespace Computed

def wrapped (result : Int) (carry : Bool) : Computed :=
  ⟨result % 256, result % 256 = 0, carry⟩

def ofDigit (a v c : Nat) : Fin 8 → Computed
  | 0 => wrapped (a + v) (256 ≤ a + v)
  | 1 => wrapped (a + v + c) (256 ≤ a + v + c)
  | 2 => wrapped ((a : Int) - v) (a < v)
  | 3 => wrapped ((a : Int) - v - c) (a < v + c)
  | 4 => wrapped (a &&& v : Nat) false
  | 5 => wrapped (a ^^^ v : Nat) false
  | 6 => wrapped (a ||| v : Nat) false
  | 7 => ⟨a, a = v, a < v⟩

end Computed

namespace Computed

theorem wrapped_eq {result : UInt8} {total : Int} (wraps : (result.toNat : Int) = total % 256)
    (carry : Bool) : wrapped total carry = ⟨result.toNat, result = 0, carry⟩ := by
  have zero : result = 0 ↔ total % 256 = 0 := by
    rw [← wraps, ← UInt8.toNat_inj]
    simp
  simp only [wrapped, wraps, zero]

end Computed

theorem toNat_addCarry_byte (a v : UInt8) (carry : Bool) :
    ((addCarry a v carry).1.toNat : Int) = ((a.toNat : Int) + v.toNat + carry.toNat) % 256 := by
  have sum : (addCarry a v carry).1.toNat + 256 * (addCarry a v carry).2.toNat =
    a.toNat + v.toNat + carry.toNat := toNat_addCarry a v carry
  have fits := (addCarry a v carry).1.toNat_lt
  omega

theorem toNat_subBorrow_byte (a v : UInt8) (borrow : Bool) :
    ((subBorrow a v borrow).1.toNat : Int) = ((a.toNat : Int) - v.toNat - borrow.toNat) % 256 := by
  have difference : (subBorrow a v borrow).1.toNat + v.toNat + borrow.toNat =
    a.toNat + 256 * (subBorrow a v borrow).2.toNat := toNat_subBorrow a v borrow
  have fits := (subBorrow a v borrow).1.toNat_lt
  omega

namespace Cpu

theorem operate_computed (cpu : Cpu) (value : UInt8) (digit : Fin 8) :
    let after := cpu.operate (Opcode.operation digit) value
    Computed.ofDigit cpu.a.toNat value.toNat cpu.flags.carry.toNat digit =
      ⟨after.a.toNat, after.flags.zero, after.flags.carry⟩ := by
  have sum : ((addCarry cpu.a value false).1.toNat : Int) =
      ((cpu.a.toNat : Int) + value.toNat) % 256 := by
    simpa using toNat_addCarry_byte cpu.a value false
  have difference : ((subBorrow cpu.a value false).1.toNat : Int) =
      ((cpu.a.toNat : Int) - value.toNat) % 256 := by
    simpa using toNat_subBorrow_byte cpu.a value false
  have byte : ∀ result : UInt8, (result.toNat : Int) = (result.toNat : Int) % 256 := by
    intro result
    have fits := result.toNat_lt
    omega
  match digit with
  | 0 => exact Computed.wrapped_eq sum _
  | 1 => exact Computed.wrapped_eq (toNat_addCarry_byte cpu.a value cpu.flags.carry) _
  | 2 => exact Computed.wrapped_eq difference _
  | 3 => exact Computed.wrapped_eq (toNat_subBorrow_byte cpu.a value cpu.flags.carry) _
  | 4 => exact Computed.wrapped_eq (byte (cpu.a &&& value)) _
  | 5 => exact Computed.wrapped_eq (byte (cpu.a ^^^ value)) _
  | 6 => exact Computed.wrapped_eq (byte (cpu.a ||| value)) _
  | 7 =>
    have same : cpu.a.toNat = value.toNat ↔ (subBorrow cpu.a value false).1 = 0 := by
      have fits := cpu.a.toNat_lt
      have other := value.toNat_lt
      rw [← UInt8.toNat_inj]
      simp
      omega
    simp only [Computed.ofDigit, same]
    rfl

end Cpu

theorem decode_named (opcode : UInt8) (block : 0x80 ≤ opcode ∧ opcode ≤ 0xbf) :
    decode opcode = some (Opcode.onOperand (.operate (Opcode.operation (Opcode.middle opcode)))
      (Opcode.last opcode) 1 2) := by
  revert opcode
  exact forall_opcode (by decide +kernel)

def immediateOpcodes : List UInt8 :=
  [0xc6, 0xce, 0xd6, 0xde, 0xe6, 0xee, 0xf6, 0xfe]

theorem decode_immediate (opcode : UInt8) (member : opcode ∈ immediateOpcodes) :
    decode opcode =
      some (.fixed (.operate (Opcode.operation (Opcode.middle opcode)) .immediate) 2) := by
  revert opcode
  exact forall_opcode (by decide +kernel)

namespace Machine

inductive Selects (machine : Machine Memory) (pc : UInt16) : UInt8 → UInt8 → UInt16 → Nat → Prop
    where
  | named {opcode : UInt8} (block : 0x80 ≤ opcode ∧ opcode ≤ 0xbf) :
      Selects machine pc opcode (machine.named (Opcode.last opcode)) 1
        (if Opcode.last opcode = 6 then 2 else 1)
  | immediate {opcode : UInt8} (member : opcode ∈ immediateOpcodes) :
      Selects machine pc opcode (machine.bus.read (pc + 1)) 2 2

variable {machine : Machine Memory} {pc length : UInt16} {opcode value : UInt8} {cost : Nat}

theorem perform_operate {operand : ByteOperand} {value : UInt8}
    (fetches : ∀ log, (operand.fetch machine.cpu pc).perform machine.bus log =
      ⟨.ok value, machine.bus, log⟩) (operation : Operation) (length : UInt16) (log : Log) :
    let after := machine.cpu.operate operation value
    ((Instruction.operate operation operand).execute machine.cpu pc length).perform machine.bus
      log = ⟨.ok { cpu := after, next := pc + length }, machine.bus, log⟩ := by
  simp only [Instruction.execute, Executed.proceed, bind_eq, bind_assoc, perform_bind, fetches]
  rfl

theorem exists_apply_step_of_selects (running : machine.cpu.halted = false)
    (stands : machine.bus.read pc = opcode) (selects : machine.Selects pc opcode value length cost)
    (cycles : Int) :
    let after := machine.cpu.operate (Opcode.operation (Opcode.middle opcode)) value
    ∃ log, machine.apply (.step pc cycles) = (.ok (.progress ⟨pc + length, cycles - cost⟩),
      ⟨{ after with pc := pc + length }, machine.bus, log⟩) := by
  cases selects with
  | named block =>
    have known := (congrArg decode stands).trans (decode_named opcode block)
    have bare := Opcode.immediateLength_operand (Opcode.last opcode)
    have costs := Opcode.operandCycles_eq (Opcode.last opcode) 1 2
    exact exists_apply_step running known (congrArg (fun n => UInt16.ofNat (1 + n)) bare)
      (perform_operate (machine.perform_fetch_operand _ pc) _ 1) costs cycles
  | immediate member =>
    have known := (congrArg decode stands).trans (decode_immediate opcode member)
    exact exists_apply_step running known rfl (perform_operate (fun _ => rfl) _ 2) rfl cycles

-- The accumulator and the carry are subtracted from the accumulator, at the top of memory.
def borrowing : Machine Memory where
  cpu := { a := 0x3c, b := 0x12, flags := { zero := true, carry := true }, sp := 0xfffe }
  bus := Memory.zero.write 0xffff 0x9f

end Machine

end Sm83
