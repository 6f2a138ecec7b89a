import Sm83.Cpu

set_option autoImplicit false

namespace Sm83

inductive ByteOperand where
  | immediate
  | absolute
  | indirect (address : WordRegister)
  | register (register : ByteRegister)
  -- The byte of page 0xff that a byte register selects.
  | highPage (register : ByteRegister)
  | highPageImmediate
  deriving DecidableEq, Repr

def ByteOperand.immediateLength : ByteOperand → Nat
  | .immediate | .highPageImmediate => 1
  | .absolute => 2
  | .indirect _ | .register _ | .highPage _ => 0

inductive WordOperand where
  | immediate
  | absolute
  | register (register : WordRegister)
  deriving DecidableEq, Repr

def WordOperand.immediateLength : WordOperand → Nat
  | .immediate | .absolute => 2
  | .register _ => 0

inductive Operation where
  | add | addCarry | sub | subCarry | and | xor | or | compare
  deriving DecidableEq, Repr

inductive Instruction where
  | nop
  | load (target source : ByteOperand)
  | loadWord (target source : WordOperand)
  | loadStackAddress
  | loadStepping (direction : Direction)
  | storeStepping (direction : Direction)
  | push (source : WordRegister)
  | pop (target : WordRegister)
  | operate (operation : Operation) (source : ByteOperand)
  | addWord (source : WordRegister)
  | addStackPointer
  | stepByte (direction : Direction) (target : ByteOperand)
  | stepWord (direction : Direction) (target : WordRegister)
  | complement
  | complementCarry
  | setCarry
  | halt
  | setInterrupts (enabled : Bool)
  -- The accumulator is rotated, and the zero flag is cleared whatever the result.
  | rotateAccumulator (rotation : Rotation)
  | shift (shift : Shift) (target : ByteOperand)
  | testBit (index : Fin 8) (source : ByteOperand)
  | assignBit (value : Bool) (index : Fin 8) (target : ByteOperand)
  | jump (condition : Option Condition)
  | jumpIndirect
  | jumpRelative (condition : Option Condition)
  | call (condition : Option Condition)
  | restart (address : UInt16)
  | ret (condition : Option Condition)
  | retInterrupt
  deriving DecidableEq, Repr

def Operation.mnemonic : Operation → String
  | .add => "ADD"
  | .addCarry => "ADC"
  | .sub => "SUB"
  | .subCarry => "SBC"
  | .and => "AND"
  | .xor => "XOR"
  | .or => "OR"
  | .compare => "CP"

def Rotation.mnemonic : Rotation → String
  | .leftCircular => "RLC"
  | .rightCircular => "RRC"
  | .left => "RL"
  | .right => "RR"

def Shift.mnemonic : Shift → String
  | .rotate rotation => rotation.mnemonic
  | .leftArithmetic => "SLA"
  | .rightArithmetic => "SRA"
  | .rightLogical => "SRL"
  | .swap => "SWAP"

namespace Instruction

def mnemonic : Instruction → String
  | nop => "NOP"
  | load _ _ => "LD"
  | loadWord _ _ => "LD_16"
  | loadStackAddress => "LDHL_SP"
  | loadStepping .down => "LDD_A_FROM_HL"
  | loadStepping .up => "LDI_A_FROM_HL"
  | storeStepping .down => "LDD_A_INTO_HL"
  | storeStepping .up => "LDI_A_INTO_HL"
  | push _ => "PUSH"
  | pop _ => "POP"
  | operate operation _ => operation.mnemonic
  | addWord _ => "ADD_HL"
  | addStackPointer => "ADD_SP"
  | stepByte .up _ => "INC"
  | stepByte .down _ => "DEC"
  | stepWord .up _ => "INC_WORD"
  | stepWord .down _ => "DEC_WORD"
  | complement => "CPL"
  | complementCarry => "CCF"
  | setCarry => "SCF"
  | halt => "HALT"
  | setInterrupts true => "EI"
  | setInterrupts false => "DI"
  | rotateAccumulator .leftCircular => "RLCA"
  | rotateAccumulator .rightCircular => "RRCA"
  | rotateAccumulator .left => "RLA"
  | rotateAccumulator .right => "RRA"
  | shift s _ => s.mnemonic
  | testBit _ _ => "BIT"
  | assignBit true _ _ => "SET"
  | assignBit false _ _ => "RES"
  | jump none => "JP"
  | jump (some _) => "JP_CONDITION"
  | jumpIndirect => "JP_HL"
  | jumpRelative none => "JR"
  | jumpRelative (some _) => "JR_CONDITION"
  | call none => "CALL"
  | call (some _) => "CALL_CONDITION"
  | restart _ => "RST"
  | ret none => "RET"
  | ret (some _) => "RET_CONDITION"
  | retInterrupt => "RETI"

-- Instructions that both read and write an operand occur with registers and memory at a register
-- only, and count none.
def immediateLength : Instruction → Nat
  | load target source => target.immediateLength + source.immediateLength
  | loadWord target source => target.immediateLength + source.immediateLength
  | loadStackAddress | addStackPointer | jumpRelative _ => 1
  | operate _ source => source.immediateLength
  | jump _ | call _ => 2
  | _ => 0

end Instruction

end Sm83
