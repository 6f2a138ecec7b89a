import Sm83.Instruction

set_option autoImplicit false

namespace Sm83

structure Entry where
  instruction : Instruction
  length : Nat
  cycles : Nat
  -- What a taken conditional branch costs on top.
  extra : Nat := 0
  cycles_pos : 0 < cycles := by decide
  deriving DecidableEq, Repr

namespace Entry

def takenCycles (entry : Entry) : Nat :=
  entry.cycles + entry.extra

theorem takenCycles_pos (entry : Entry) : 0 < entry.takenCycles :=
  Nat.add_pos_left entry.cycles_pos entry.extra

def fixed (instruction : Instruction) (cycles : Nat) (pos : 0 < cycles := by decide) : Entry where
  instruction
  length := 1 + instruction.immediateLength
  cycles
  cycles_pos := pos

def branching (instruction : Instruction) (cycles extra : Nat)
    (pos : 0 < cycles := by decide) : Entry :=
  { fixed instruction cycles pos with extra }

end Entry

namespace Opcode

def block (opcode : UInt8) : Fin 4 :=
  ⟨opcode.toNat / 64, by have := opcode.toNat_lt; omega⟩

def middle (opcode : UInt8) : Fin 8 :=
  ⟨opcode.toNat / 8 % 8, by omega⟩

def last (opcode : UInt8) : Fin 8 :=
  ⟨opcode.toNat % 8, by omega⟩

-- The digit 6 stands for the byte at `HL`.
def operand : Fin 8 → ByteOperand
  | 0 => .register .b
  | 1 => .register .c
  | 2 => .register .d
  | 3 => .register .e
  | 4 => .register .h
  | 5 => .register .l
  | 6 => .indirect .hl
  | 7 => .register .a

def operandCycles (digit : Fin 8) (inRegister inMemory : Nat) : Nat :=
  if digit.val = 6 then inMemory else inRegister

theorem operandCycles_pos (digit : Fin 8) {inRegister inMemory : Nat}
    (register : 0 < inRegister) (memory : 0 < inMemory) :
    0 < operandCycles digit inRegister inMemory := by
  unfold operandCycles
  split
  next => exact memory
  next => exact register

def pairOrStackPointer : Fin 8 → WordRegister
  | 0 | 1 => .bc
  | 2 | 3 => .de
  | 4 | 5 => .hl
  | 6 | 7 => .sp

def pairOrFlags : Fin 8 → WordRegister
  | 0 | 1 => .bc
  | 2 | 3 => .de
  | 4 | 5 => .hl
  | 6 | 7 => .af

def condition : Fin 8 → Condition
  | 0 | 4 => .notZero
  | 1 | 5 => .zero
  | 2 | 6 => .notCarry
  | 3 | 7 => .carry

def operation : Fin 8 → Operation
  | 0 => .add
  | 1 => .addCarry
  | 2 => .sub
  | 3 => .subCarry
  | 4 => .and
  | 5 => .xor
  | 6 => .or
  | 7 => .compare

def shift : Fin 8 → Shift
  | 0 => .rotate .leftCircular
  | 1 => .rotate .rightCircular
  | 2 => .rotate .left
  | 3 => .rotate .right
  | 4 => .leftArithmetic
  | 5 => .rightArithmetic
  | 6 => .swap
  | 7 => .rightLogical

def onOperand (instruction : ByteOperand → Instruction) (digit : Fin 8)
    (inRegister inMemory : Nat) (register : 0 < inRegister := by decide)
    (memory : 0 < inMemory := by decide) : Entry :=
  .fixed (instruction (operand digit)) (operandCycles digit inRegister inMemory)
    (operandCycles_pos digit register memory)

def decodeMixed (y z : Fin 8) : Option Entry :=
  match z, y with
  | 0, 0 => some (.fixed .nop 1)
  | 0, 1 => some (.fixed (.loadWord .absolute (.register .sp)) 5)
  | 0, 2 => none
  | 0, 3 => some (.fixed (.jumpRelative none) 3)
  | 0, y => some (.branching (.jumpRelative (some (condition y))) 2 1)
  | 1, y =>
    if y.val % 2 = 0 then
      some (.fixed (.loadWord (.register (pairOrStackPointer y)) .immediate) 3)
    else
      some (.fixed (.addWord (pairOrStackPointer y)) 2)
  | 2, 0 => some (.fixed (.load (.indirect .bc) (.register .a)) 2)
  | 2, 1 => some (.fixed (.load (.register .a) (.indirect .bc)) 2)
  | 2, 2 => some (.fixed (.load (.indirect .de) (.register .a)) 2)
  | 2, 3 => some (.fixed (.load (.register .a) (.indirect .de)) 2)
  | 2, 4 => some (.fixed (.storeStepping .up) 2)
  | 2, 5 => some (.fixed (.loadStepping .up) 2)
  | 2, 6 => some (.fixed (.storeStepping .down) 2)
  | 2, 7 => some (.fixed (.loadStepping .down) 2)
  | 3, y =>
    let direction := if y.val % 2 = 0 then Direction.up else Direction.down
    some (.fixed (.stepWord direction (pairOrStackPointer y)) 2)
  | 4, y => some (onOperand (.stepByte .up) y 1 3)
  | 5, y => some (onOperand (.stepByte .down) y 1 3)
  | 6, y => some (onOperand (.load · .immediate) y 2 3)
  | 7, 0 => some (.fixed (.rotateAccumulator .leftCircular) 1)
  | 7, 1 => some (.fixed (.rotateAccumulator .rightCircular) 1)
  | 7, 2 => some (.fixed (.rotateAccumulator .left) 1)
  | 7, 3 => some (.fixed (.rotateAccumulator .right) 1)
  | 7, 4 => none
  | 7, 5 => some (.fixed .complement 1)
  | 7, 6 => some (.fixed .setCarry 1)
  | 7, 7 => some (.fixed .complementCarry 1)

-- Opcodes `0x40` to `0x7f`: loads between operands, with the halt in place of the load of the byte
-- at `HL` into itself.
def decodeLoad (y z : Fin 8) : Entry :=
  if y.val = 6 ∧ z.val = 6 then
    .fixed .halt 1
  else
    .fixed (.load (operand y) (operand z)) (operandCycles y (operandCycles z 1 2) 2)
      (operandCycles_pos y (operandCycles_pos z Nat.one_pos Nat.two_pos) Nat.two_pos)

def decodeControl (y z : Fin 8) : Option Entry :=
  match z, y with
  | 0, 4 => some (.fixed (.load .highPageImmediate (.register .a)) 3)
  | 0, 5 => some (.fixed .addStackPointer 4)
  | 0, 6 => some (.fixed (.load (.register .a) .highPageImmediate) 3)
  | 0, 7 => some (.fixed .loadStackAddress 3)
  | 0, y => some (.branching (.ret (some (condition y))) 2 3)
  | 1, 1 => some (.fixed (.ret none) 4)
  | 1, 3 => some (.fixed .retInterrupt 4)
  | 1, 5 => some (.fixed .jumpIndirect 1)
  | 1, 7 => some (.fixed (.loadWord (.register .sp) (.register .hl)) 2)
  | 1, y => some (.fixed (.pop (pairOrFlags y)) 3)
  | 2, 4 => some (.fixed (.load (.highPage .c) (.register .a)) 2)
  | 2, 5 => some (.fixed (.load .absolute (.register .a)) 4)
  | 2, 6 => some (.fixed (.load (.register .a) (.highPage .c)) 2)
  | 2, 7 => some (.fixed (.load (.register .a) .absolute) 4)
  | 2, y => some (.branching (.jump (some (condition y))) 3 1)
  | 3, 0 => some (.fixed (.jump none) 4)
  | 3, 6 => some (.fixed (.setInterrupts false) 1)
  | 3, 7 => some (.fixed (.setInterrupts true) 1)
  | 3, _ => none
  | 4, y =>
    if y.val < 4 then some (.branching (.call (some (condition y))) 3 3) else none
  | 5, 1 => some (.fixed (.call none) 6)
  | 5, y => if y.val % 2 = 0 then some (.fixed (.push (pairOrFlags y)) 4) else none
  | 6, y => some (.fixed (.operate (operation y) .immediate) 2)
  | 7, y => some (.fixed (.restart (8 * UInt16.ofNat y)) 4)

end Opcode

open Opcode in
def decode (opcode : UInt8) : Option Entry :=
  let y := middle opcode
  let z := last opcode
  match block opcode with
  | 0 => decodeMixed y z
  | 1 => some (decodeLoad y z)
  | 2 => some (onOperand (.operate (operation y)) z 1 2)
  | 3 => decodeControl y z

open Opcode in
def decodeExtended (opcode : UInt8) : Entry :=
  let y := middle opcode
  let z := last opcode
  let entry :=
    match block opcode with
    | 0 => onOperand (.shift (shift y)) z 2 4
    | 1 => onOperand (.testBit y) z 2 3
    | 2 => onOperand (.assignBit false y) z 2 4
    | 3 => onOperand (.assignBit true y) z 2 4
  { entry with length := 2 }

def knownOpcodes : Nat :=
  (List.range 256).countP fun n => (decode (UInt8.ofNat n)).isSome

def Opcode.summary : String :=
  "OpcodeTable \x7b regular: " ++ toString knownOpcodes ++ ", prefixed: " ++
    toString (256 : Nat) ++ " \x7d"

end Sm83
