import Sm83.Machine

set_option autoImplicit false

namespace Sm83

inductive Command where
  | load (address : UInt16) (program : List UInt8)
  | step (pc : UInt16) (cycles : Int)
  | run (pc : UInt16) (budget : Int)
  | execute (instruction : Instruction) (pc length : UInt16)
  | interrupt (pc : UInt16) (cycles : Int) (vector : UInt16)
  | push (value : UInt16)
  | pop
  | readByte (address : UInt16)
  | writeByte (address : UInt16) (value : UInt8)
  | readWord (address : UInt16)
  | writeWord (address : UInt16) (value : UInt16)
  | getByte (register : ByteRegister)
  | setByte (register : ByteRegister) (value : UInt8)
  | getWord (register : WordRegister)
  | setWord (register : WordRegister) (value : UInt16)
  | reset
  | boot
  | inspect
  deriving DecidableEq, Repr

inductive Reply where
  | done
  | byte (value : UInt8)
  | word (value : UInt16)
  | progress (progress : Progress)
  | executed (next : UInt16) (taken : Bool)
  | snapshot (snapshot : Snapshot)
  deriving DecidableEq, Repr

namespace Overflow

def progress (overflow : Overflow) (progress : Progress) : Except Fault Reply :=
  (overflow.keep .subtractOverflow progress.cycles).map fun cycles =>
    .progress ⟨progress.pc, cycles⟩

def reply (overflow : Overflow) : Reply → Except Fault Reply
  | .progress progress => overflow.progress progress
  | reply => .ok reply

variable (overflow : Overflow) (pc : UInt16) {cycles : Int}

theorem progress_of_fits (fits : InWord32 cycles) :
    overflow.progress ⟨pc, cycles⟩ = .ok (.progress ⟨pc, cycles⟩) := by
  rw [progress, keep_of_fits overflow _ fits]
  rfl

theorem progress_ne (exceeds : ¬ InWord32 cycles) :
    overflow.progress ⟨pc, cycles⟩ ≠ .ok (.progress ⟨pc, cycles⟩) := by
  intro kept
  rw [progress] at kept
  match counted : overflow.keep .subtractOverflow cycles with
  | .error fault => rw [counted] at kept; cases kept
  | .ok left =>
    rw [counted] at kept
    cases kept
    exact exceeds ((keep_eq_ok_iff overflow _).mp counted)

end Overflow

namespace Machine

open Microcode

variable {β : Type} [Bus β]

-- A command that fails leaves the processor as it was; of a run that fails, the steps before the
-- failing one stand. The number of cycles handed back is exact here; `call` keeps it in 32 bits.
def apply (machine : Machine β) : Command → Except Fault Reply × Machine β
  | .load address program => machine.perform fun cpu => do
    loadProgram address program
    return (.done, cpu)
  | .step pc cycles =>
    let (result, machine) := machine.step pc
    (result.map fun stepped => .progress ⟨stepped.next, cycles - stepped.cost⟩, machine)
  | .run pc budget =>
    let (result, machine) := machine.run pc budget
    (result.map .progress, machine)
  | .execute instruction pc length => machine.perform fun cpu => do
    let executed ← instruction.execute cpu pc length
    return (.executed executed.next executed.taken, executed.cpu)
  | .interrupt pc cycles vector => machine.perform fun cpu => do
    let (next, cost, cpu) ← cpu.interrupt pc vector
    return (.progress ⟨next, cycles - cost⟩, cpu)
  | .push value => machine.perform fun cpu => do
    let cpu ← cpu.push value
    return (.done, cpu)
  | .pop => machine.perform fun cpu => do
    let (value, cpu) ← cpu.pop
    return (.word value, cpu)
  | .readByte address => machine.perform fun cpu => do
    let value ← readByte address
    return (.byte value, cpu)
  | .writeByte address value => machine.perform fun cpu => do
    writeByte address value
    return (.done, cpu)
  | .readWord address => machine.perform fun cpu => do
    let value ← readWord address
    return (.word value, cpu)
  | .writeWord address value => machine.perform fun cpu => do
    writeWord address value
    return (.done, cpu)
  | .getByte register => machine.perform fun cpu => return (.byte (cpu.getByte register), cpu)
  | .setByte register value => machine.perform fun cpu => return (.done, cpu.setByte register value)
  | .getWord register => machine.perform fun cpu => return (.word (cpu.getWord register), cpu)
  | .setWord register value => machine.perform fun cpu => return (.done, cpu.setWord register value)
  | .reset => machine.perform fun _ => return (.done, {})
  | .boot => machine.perform fun _ => return (.done, .booted)
  | .inspect => machine.perform fun cpu => do
    let snapshot ← cpu.inspect
    return (.snapshot snapshot, cpu)

theorem apply_execute (machine : Machine β) (instruction : Instruction) (pc length : UInt16) :
    machine.apply (.execute instruction pc length) =
      match (instruction.execute machine.cpu pc length).perform machine.bus machine.log with
      | ⟨.ok executed, bus, log⟩ =>
        (.ok (.executed executed.next executed.taken), ⟨executed.cpu, bus, log⟩)
      | ⟨.error fault, bus, log⟩ => (.error fault, ⟨machine.cpu, bus, log⟩) := by
  obtain ⟨cpu, bus, log⟩ := machine
  simp only [apply, perform, bind_eq, perform_bind]
  rcases (instruction.execute cpu pc length).perform bus log with ⟨_ | _, _, _⟩
  next => rfl
  next => rfl

theorem apply_interrupt_of_disabled (machine : Machine β)
    (disabled : machine.cpu.interruptsEnabled = false) (pc : UInt16) (cycles : Int)
    (vector : UInt16) :
    machine.apply (.interrupt pc cycles vector) = (.ok (.progress ⟨pc, cycles⟩),
      ⟨{ machine.cpu with halted := false }, machine.bus,
        (if machine.cpu.halted then machine.log.record .resuming else machine.log).record
          (.interruptIgnored vector)⟩) := by
  obtain ⟨⟨_, _, _, _, _, _, _, _, _, _, _, halted⟩, _, _⟩ := machine
  cases disabled
  cases halted <;> refine Prod.ext ?_ rfl <;>
    simp [apply, perform, Cpu.interrupt, Microcode.log, Microcode.perform]

theorem apply_interrupt_of_enabled (machine : Machine β)
    (enabled : machine.cpu.interruptsEnabled = true) (pc : UInt16) (cycles : Int)
    (vector : UInt16) :
    machine.apply (.interrupt pc cycles vector) = (.ok (.progress ⟨vector, cycles - 5⟩),
      ⟨{ machine.cpu with
          halted := false, interruptsEnabled := false, sp := machine.cpu.sp - 2, pc := vector },
        Bus.write (Bus.write machine.bus (machine.cpu.sp - 2) (lowByte pc))
          (machine.cpu.sp - 2 + 1) (highByte pc),
        (if machine.cpu.halted then machine.log.record .resuming else machine.log).record
          (.interruptTaken vector pc)⟩) := by
  obtain ⟨⟨_, _, _, _, _, _, _, _, _, _, _, halted⟩, _, _⟩ := machine
  cases enabled
  cases halted <;> rfl

def applyAll (machine : Machine β) : List Command → List (Except Fault Reply) × Machine β
  | [] => ([], machine)
  | command :: rest =>
    let (reply, machine) := machine.apply command
    let (replies, machine) := machine.applyAll rest
    (reply :: replies, machine)

-- The number of cycles is the last thing to be worked out, so the state has changed by then.
def call (machine : Machine β) (overflow : Overflow) (command : Command) :
    Except Fault Reply × Machine β :=
  let (reply, machine) := machine.apply command
  (reply.bind overflow.reply, machine)

def callAll (machine : Machine β) (overflow : Overflow) :
    List Command → List (Except Fault Reply) × Machine β
  | [] => ([], machine)
  | command :: rest =>
    let (reply, machine) := machine.call overflow command
    let (replies, machine) := machine.callAll overflow rest
    (reply :: replies, machine)

theorem callAll_eq (machine : Machine β) (overflow : Overflow) (commands : List Command) :
    machine.callAll overflow commands =
      ((machine.applyAll commands).1.map (·.bind overflow.reply),
        (machine.applyAll commands).2) := by
  induction commands generalizing machine with
  | nil => rfl
  | cons command rest ih => simp only [callAll, applyAll, call, ih, List.map_cons]

variable {machine after : Machine β} {command : Command} {pc : UInt16} {cycles : Int}

theorem apply_step_of_step_ok {stepped : Stepped} (step : machine.step pc = (.ok stepped, after))
    (cycles : Int) :
    machine.apply (.step pc cycles) =
      (.ok (.progress ⟨stepped.next, cycles - stepped.cost⟩), after) := by
  simp only [apply, step, Except.map]

theorem apply_step_of_step_error {fault : Fault} (step : machine.step pc = (.error fault, after))
    (cycles : Int) : machine.apply (.step pc cycles) = (.error fault, after) := by
  simp only [apply, step, Except.map]

theorem call_of_apply (applied : machine.apply command = (.ok (.progress ⟨pc, cycles⟩), after))
    (overflow : Overflow) :
    machine.call overflow command = (overflow.progress ⟨pc, cycles⟩, after) := by
  rw [call, applied]
  rfl

theorem call_of_fits (applied : machine.apply command = (.ok (.progress ⟨pc, cycles⟩), after))
    (fits : InWord32 cycles) (overflow : Overflow) :
    machine.call overflow command = machine.apply command := by
  rw [call_of_apply applied, overflow.progress_of_fits pc fits, applied]

theorem call_of_exceeds (applied : machine.apply command = (.ok (.progress ⟨pc, cycles⟩), after))
    (exceeds : ¬ InWord32 cycles) :
    (∀ overflow, (machine.call overflow command).1 ≠ .ok (.progress ⟨pc, cycles⟩)) ∧
    (machine.call .wraps command).1 = .ok (.progress ⟨pc, cycles.bmod Int32.size⟩) ∧
    (machine.call .traps command).1 = .error .subtractOverflow := by
  simp only [call_of_apply applied]
  refine ⟨fun overflow => overflow.progress_ne pc exceeds, ?_, ?_⟩
  next => rw [Overflow.progress, Overflow.keep_of_wraps _ exceeds]; rfl
  next => rw [Overflow.progress, Overflow.keep_of_traps _ exceeds]; rfl

end Machine

end Sm83
