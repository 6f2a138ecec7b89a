import Sm83.Fault
import Sm83.Instruction
import Sm83.Snapshot

set_option autoImplicit false

namespace Sm83

inductive Level where
  | error | warn | info | debug | trace
  deriving DecidableEq, Repr

namespace Level

def name : Level → String
  | error => "ERROR"
  | warn => "WARN"
  | info => "INFO"
  | debug => "DEBUG"
  | trace => "TRACE"

def detail : Level → Nat
  | error => 1
  | warn => 2
  | info => 3
  | debug => 4
  | trace => 5

end Level

inductive Event where
  | loaded (length : Nat) (address : UInt16)
  | fetched (opcode : UInt8) (pc : UInt16) (extended : Bool)
  | refused (fault : Fault)
  | executed (instruction : Instruction) (cpu : Cpu)
  | halting (pc : UInt16)
  | resuming
  | interruptIgnored (vector : UInt16)
  | interruptTaken (vector pc : UInt16)
  | sliceDone (index : Nat) (overrun : Int) (snapshot : Snapshot)
  | stopped (fault : Fault)
  | stoppedAt (snapshot : Snapshot)
  | serialTotal (count : Nat)
  deriving DecidableEq, Repr

namespace Event

def level : Event → Level
  | loaded .. => .debug
  | fetched .. => .trace
  | refused _ => .warn
  | executed .. => .trace
  | halting _ => .debug
  | resuming => .debug
  | interruptIgnored _ => .debug
  | interruptTaken .. => .debug
  | sliceDone .. => .debug
  | stopped _ => .error
  | stoppedAt _ => .info
  | serialTotal _ => .info

def message : Event → String
  | loaded length address => "Loaded " ++ toString length ++ " bytes at " ++ Hex.word address
  | fetched opcode pc false => "opcode " ++ Hex.byte opcode ++ " at pc " ++ Hex.word pc
  | fetched opcode pc true => "CB opcode " ++ Hex.byte opcode ++ " at pc " ++ Hex.word pc
  | refused fault => fault.message
  | executed instruction cpu =>
    instruction.mnemonic ++ " AF: " ++ Hex.word (cpu.getWord .af) ++
      " BC: " ++ Hex.word (cpu.getWord .bc) ++ " DE: " ++ Hex.word (cpu.getWord .de) ++
      " HL: " ++ Hex.word (cpu.getWord .hl) ++ " SP: " ++ Hex.word cpu.sp ++
      " PC: " ++ Hex.word cpu.pc
  | halting pc => "Halting at " ++ Hex.word pc
  | resuming => "Unhalting"
  | interruptIgnored vector => "ignoring interrupt " ++ Hex.word vector
  | interruptTaken vector pc =>
    "Handling interrupt " ++ Hex.word vector ++ " from " ++ Hex.word pc
  | sliceDone index overrun snapshot =>
    "slice " ++ toString index ++ " overran by " ++ toString overrun ++ ": " ++ snapshot.text
  | stopped fault => fault.message
  | stoppedAt snapshot => snapshot.text
  | serialTotal count => toString count ++ " bytes written to serial"

def component : Event → String
  | sliceDone .. | stopped _ | stoppedAt _ | serialTotal _ => "cpu_runner"
  | halting _ => "gameboy_cpu::cpu::instruction"
  | loaded .. | fetched .. | refused _ | executed .. | resuming | interruptIgnored _
  | interruptTaken .. => "gameboy_cpu::cpu::cpu"

def text (event : Event) : String :=
  event.level.name ++ " " ++ event.message

end Event

-- What of the events is wanted. What a program would only work out for the log it leaves alone
-- unless the level is admitted.
structure Filter where
  admits : Level → Bool
  keeps : Event → Bool

namespace Filter

def nothing : Filter := ⟨fun _ => false, fun _ => false⟩

def everything : Filter := ⟨fun _ => true, fun _ => true⟩

end Filter

structure Log where
  filter : Filter := .nothing
  events : Array Event := #[]

namespace Log

def record (log : Log) (event : Event) : Log :=
  let ⟨filter, events⟩ := log
  ⟨filter, if filter.keeps event then events.push event else events⟩

@[simp] theorem filter_record (log : Log) (event : Event) :
    (log.record event).filter = log.filter := rfl

theorem toList_events_record (log : Log) (event : Event) :
    (log.record event).events.toList =
      log.events.toList ++ [event].filter log.filter.keeps := by
  by_cases kept : log.filter.keeps event <;> simp [record, kept]

end Log

end Sm83
