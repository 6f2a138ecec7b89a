import Sm83.Adder
import Sm83.Bits
import Sm83.Instruction

set_option autoImplicit false

namespace Sm83

def Operation.apply : Operation → UInt8 → UInt8 → Bool → UInt8 × Bool
  | .add, a, value, _ => Sm83.addCarry a value false
  | .addCarry, a, value, carry => Sm83.addCarry a value carry
  | .sub, a, value, _ => subBorrow a value false
  | .subCarry, a, value, carry => subBorrow a value carry
  | .and, a, value, _ => (a &&& value, false)
  | .xor, a, value, _ => (a ^^^ value, false)
  | .or, a, value, _ => (a ||| value, false)
  | .compare, a, value, _ => subBorrow a value false

namespace Cpu

def operate (cpu : Cpu) (operation : Operation) (value : UInt8) : Cpu :=
  let (result, carry) := operation.apply cpu.a value cpu.flags.carry
  { cpu with
    a := if operation = .compare then cpu.a else result
    flags := { zero := result = 0, carry } }

def addWord (cpu : Cpu) (value : UInt16) : Cpu :=
  let (sum, carry) := addCarry (cpu.getWord .hl) value false
  { cpu.setWord .hl sum with flags := { cpu.flags with carry } }

-- The flags after a displacement of the stack pointer: the carry is that of its low byte, taken
-- without sign.
def displacementFlags (cpu : Cpu) (displacement : UInt8) : Flags where
  zero := false
  carry := (addCarry (lowByte cpu.sp) displacement false).2

def displacedStackPointer (cpu : Cpu) (displacement : UInt8) : UInt16 :=
  cpu.sp + signExtend displacement

def noteStep (cpu : Cpu) (result : UInt8) : Cpu :=
  { cpu with flags := { cpu.flags with zero := result = 0 } }

def noteShift (cpu : Cpu) (result : UInt8) (carry : Bool) : Cpu :=
  { cpu with flags := { zero := result = 0, carry } }

def rotateAccumulator (cpu : Cpu) (rotation : Rotation) : Cpu :=
  let (result, carry) := rotation.apply cpu.a cpu.flags.carry
  { cpu with a := result, flags := { zero := false, carry } }

end Cpu

-- Only bytes above 128 lead backwards.
def relativeTarget (pc : UInt16) (displacement : UInt8) : UInt16 :=
  if 128 < displacement then pc - 254 + displacement.toUInt16
  else pc + displacement.toUInt16 + 2

end Sm83
