import Sm83.Execute
import Sm83.Decode

set_option autoImplicit false

namespace Sm83

open Microcode

structure Stepped where
  cpu : Cpu
  next : UInt16
  cost : Nat
  cost_pos : 0 < cost

structure Progress where
  pc : UInt16
  cycles : Int
  deriving DecidableEq, Repr

def fetchEntry (pc : UInt16) : Microcode Entry := do
  let opcode ← readByte pc
  if opcode = 0xcb then
    let opcode ← readByte (pc + 1)
    log (.fetched opcode pc true)
    return decodeExtended opcode
  else
    log (.fetched opcode pc false)
    match decode opcode with
    | some entry => return entry
    | none =>
      let fault := Fault.unknownOpcode opcode pc false
      log (.refused fault)
      fail fault

def Entry.cost (entry : Entry) (taken : Bool) : Nat :=
  if taken then entry.takenCycles else entry.cycles

theorem Entry.cost_pos (entry : Entry) (taken : Bool) : 0 < entry.cost taken := by
  unfold cost
  split
  next => exact entry.takenCycles_pos
  next => exact entry.cycles_pos

namespace Cpu

def executeEntry (cpu : Cpu) (pc : UInt16) (entry : Entry) : Microcode Stepped := do
  let executed ← entry.instruction.execute cpu pc (UInt16.ofNat entry.length)
  let cpu := { executed.cpu with pc := executed.next }
  log (.executed entry.instruction cpu)
  return {
    cpu
    next := executed.next
    cost := entry.cost executed.taken
    cost_pos := entry.cost_pos executed.taken }

def step (cpu : Cpu) (pc : UInt16) : Microcode Stepped :=
  if cpu.halted then
    return { cpu := { cpu with pc }, next := pc, cost := 1, cost_pos := Nat.one_pos }
  else do
    let entry ← fetchEntry pc
    cpu.executeEntry pc entry

def interruptCost : Nat := 5

/-- An interrupt between two instructions, the second of which stands at `pc`. It always ends a
halt; the handler at `vector` is entered only when interrupts are enabled. The result is where
to go on and what it cost. -/
def interrupt (cpu : Cpu) (pc vector : UInt16) : Microcode (UInt16 × Nat × Cpu) := do
  if cpu.halted then
    log .resuming
  let cpu := { cpu with halted := false }
  if cpu.interruptsEnabled then
    log (.interruptTaken vector pc)
    let cpu ← { cpu with interruptsEnabled := false }.push pc
    return (vector, interruptCost, { cpu with pc := vector })
  else
    log (.interruptIgnored vector)
    return (pc, 0, cpu)

def inspect (cpu : Cpu) : Microcode Snapshot := do
  let opcode ← readByte cpu.pc
  return cpu.snapshot opcode

end Cpu

def loadProgram (address : UInt16) (program : List UInt8) : Microcode Unit :=
  if address.toNat + program.length ≤ 65536 then do
    writeBytes address program
    log (.loaded program.length address)
  else
    fail (.programTooLarge address program.length)

end Sm83
