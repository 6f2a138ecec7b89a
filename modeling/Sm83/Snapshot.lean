import Sm83.Cpu
import Sm83.Text.Hex

set_option autoImplicit false

namespace Sm83

structure Snapshot where
  pc : UInt16
  opcode : UInt8
  sp : UInt16
  a : UInt8
  flags : Flags
  bc : UInt16
  de : UInt16
  hl : UInt16
  interruptsEnabled : Bool
  halted : Bool
  deriving DecidableEq, Repr

def Cpu.snapshot (cpu : Cpu) (opcode : UInt8) : Snapshot where
  pc := cpu.pc
  opcode
  sp := cpu.sp
  a := cpu.a
  flags := cpu.flags
  bc := cpu.getWord .bc
  de := cpu.getWord .de
  hl := cpu.getWord .hl
  interruptsEnabled := cpu.interruptsEnabled
  halted := cpu.halted

namespace Snapshot

def binary (b : Bool) : String :=
  if b then "1" else "0"

def truth (b : Bool) : String :=
  if b then "true" else "false"

def text (s : Snapshot) : String :=
  "PC: " ++ Hex.word s.pc ++ " (" ++ Hex.byte s.opcode ++ ") SP: " ++ Hex.word s.sp ++
    " A: " ++ Hex.byte s.a ++ " Z: " ++ binary s.flags.zero ++ " C: " ++ binary s.flags.carry ++
    " BC: " ++ Hex.word s.bc ++ " DE: " ++ Hex.word s.de ++ " HL: " ++ Hex.word s.hl ++
    " IME: " ++ truth s.interruptsEnabled ++ " HALT: " ++ truth s.halted

end Snapshot

end Sm83
