import Sm83.Microcode
import Sm83.Arithmetic

set_option autoImplicit false

namespace Sm83

open Microcode

inductive Place where
  | register (register : ByteRegister)
  | memory (address : UInt16)
  | instruction (address : UInt16)
  deriving DecidableEq, Repr

namespace Place

def fetch (cpu : Cpu) : Place → Microcode UInt8
  | register r => return cpu.getByte r
  | memory address => readByte address
  | instruction address => readByte address

def store (cpu : Cpu) (value : UInt8) : Place → Microcode Cpu
  | register r => return cpu.setByte r value
  | memory address => do
    writeByte address value
    return cpu
  | instruction _ => fail .immediateWrite

end Place

def highPageAddress (index : UInt8) : UInt16 :=
  word 0xff index

namespace ByteOperand

def place (cpu : Cpu) (pc : UInt16) : ByteOperand → Microcode Place
  | immediate => return .instruction (pc + 1)
  | absolute => return .memory (← readWord (pc + 1))
  | indirect address => return .memory (cpu.getWord address)
  | register r => return .register r
  | highPage r => return .memory (highPageAddress (cpu.getByte r))
  | highPageImmediate => return .memory (highPageAddress (← readByte (pc + 1)))

def fetch (operand : ByteOperand) (cpu : Cpu) (pc : UInt16) : Microcode UInt8 := do
  let place ← operand.place cpu pc
  place.fetch cpu

-- The place is found anew, also by an instruction that has just fetched from it.
def store (operand : ByteOperand) (cpu : Cpu) (pc : UInt16) (value : UInt8) :
    Microcode Cpu := do
  let place ← operand.place cpu pc
  place.store cpu value

end ByteOperand

namespace WordOperand

def fetch (operand : WordOperand) (cpu : Cpu) (pc : UInt16) : Microcode UInt16 :=
  match operand with
  | immediate => readWord (pc + 1)
  | absolute => do
    let address ← readWord (pc + 1)
    readWord address
  | register r => return cpu.getWord r

def store (operand : WordOperand) (cpu : Cpu) (pc : UInt16) (value : UInt16) :
    Microcode Cpu :=
  match operand with
  | immediate => fail .immediateWrite
  | absolute => do
    let address ← readWord (pc + 1)
    writeWord address value
    return cpu
  | register r => return cpu.setWord r value

end WordOperand

namespace Cpu

def push (cpu : Cpu) (value : UInt16) : Microcode Cpu := do
  let sp := cpu.sp - 2
  writeWord sp value
  return { cpu with sp }

def pop (cpu : Cpu) : Microcode (UInt16 × Cpu) := do
  let value ← readWord cpu.sp
  return (value, { cpu with sp := cpu.sp + 2 })

end Cpu

-- How an instruction ends: the processor, the address of the next instruction, and whether a
-- condition was tested and held. The processor's own `pc` has not moved yet.
structure Executed where
  cpu : Cpu
  next : UInt16
  taken : Bool := false
  deriving DecidableEq, Repr

namespace Executed

def proceed (next : UInt16) (code : Microcode Cpu) : Microcode Executed := do
  let cpu ← code
  return { cpu, next }

-- A transfer of control, made when its condition holds; the taken branch of a condition is marked,
-- an unconditional transfer is not.
def branch (cpu : Cpu) (next : UInt16) (condition : Option Condition)
    (transfer : Microcode Executed) : Microcode Executed :=
  match condition with
  | none => transfer
  | some condition =>
    if cpu.flags.holds condition then do
      let executed ← transfer
      return { executed with taken := true }
    else
      return { cpu, next }

end Executed

namespace Instruction

open Executed

def transferJump (cpu : Cpu) (pc : UInt16) : Microcode Executed := do
  let target ← readWord (pc + 1)
  return { cpu, next := target }

def transferRelative (cpu : Cpu) (pc : UInt16) : Microcode Executed := do
  let displacement ← readByte (pc + 1)
  return { cpu, next := relativeTarget pc displacement }

-- The target is read before the return address goes on the stack.
def transferCall (cpu : Cpu) (pc next : UInt16) : Microcode Executed := do
  let target ← readWord (pc + 1)
  let cpu ← cpu.push next
  return { cpu, next := target }

def transferReturn (cpu : Cpu) : Microcode Executed := do
  let (target, cpu) ← cpu.pop
  return { cpu, next := target }

def execute (instruction : Instruction) (cpu : Cpu) (pc length : UInt16) : Microcode Executed :=
  let next := pc + length
  match instruction with
  | nop => proceed next (return cpu)
  | load target source => proceed next do
    let value ← source.fetch cpu pc
    target.store cpu pc value
  | loadWord target source => proceed next do
    let value ← source.fetch cpu pc
    target.store cpu pc value
  | loadStackAddress => proceed next do
    let displacement ← readByte (pc + 1)
    return { cpu.setWord .hl (cpu.displacedStackPointer displacement) with
      flags := cpu.displacementFlags displacement }
  | loadStepping direction => proceed next do
    let value ← readByte (cpu.getWord .hl)
    return { cpu with a := value }.stepWord direction .hl
  | storeStepping direction => proceed next do
    writeByte (cpu.getWord .hl) cpu.a
    return cpu.stepWord direction .hl
  | push source => proceed next (cpu.push (cpu.getWord source))
  | pop target => proceed next do
    let (value, cpu) ← cpu.pop
    return cpu.setWord target value
  | operate operation source => proceed next do
    let value ← source.fetch cpu pc
    return cpu.operate operation value
  | addWord source => proceed next (return cpu.addWord (cpu.getWord source))
  | addStackPointer => proceed next do
    let displacement ← readByte (pc + 1)
    return { cpu with
      sp := cpu.displacedStackPointer displacement
      flags := cpu.displacementFlags displacement }
  | stepByte direction target => proceed next do
    let value ← target.fetch cpu pc
    let result := direction.byte value
    let cpu ← target.store cpu pc result
    return cpu.noteStep result
  | stepWord direction target => proceed next (return cpu.stepWord direction target)
  | complement => proceed next (return { cpu with a := ~~~cpu.a })
  | complementCarry => proceed next
    (return { cpu with flags := { cpu.flags with carry := !cpu.flags.carry } })
  | setCarry => proceed next
    (return { cpu with flags := { cpu.flags with carry := true } })
  | halt => proceed next do
    log (.halting pc)
    return { cpu with halted := true }
  | setInterrupts enabled => proceed next (return { cpu with interruptsEnabled := enabled })
  | rotateAccumulator rotation => proceed next (return cpu.rotateAccumulator rotation)
  | shift s target => proceed next do
    let value ← target.fetch cpu pc
    let (result, carry) := s.apply value cpu.flags.carry
    let cpu ← target.store cpu pc result
    return cpu.noteShift result carry
  | testBit index source => proceed next do
    let value ← source.fetch cpu pc
    return { cpu with flags := { cpu.flags with zero := !bit value index } }
  | assignBit value index target => proceed next do
    let old ← target.fetch cpu pc
    target.store cpu pc (setBit old index value)
  | jump condition => branch cpu next condition (transferJump cpu pc)
  | jumpIndirect => return { cpu, next := cpu.getWord .hl }
  | jumpRelative condition => branch cpu next condition (transferRelative cpu pc)
  | call condition => branch cpu next condition (transferCall cpu pc next)
  | restart address => do
    let cpu ← cpu.push next
    return { cpu, next := address }
  | ret condition => branch cpu next condition (transferReturn cpu)
  | retInterrupt => transferReturn { cpu with interruptsEnabled := true }

end Instruction

end Sm83
