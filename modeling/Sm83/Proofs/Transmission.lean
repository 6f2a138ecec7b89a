import Mathlib.Data.List.Induction
import Mathlib.Data.List.Nodup
import Sm83.Proofs.Recording
import Sm83.Proofs.Transparency

set_option autoImplicit false

namespace Sm83

def lastWritten (first : UInt8) (writes : List (UInt16 × UInt8)) (address : UInt16) : UInt8 :=
  ((writes.filter (·.1 = address)).getLast?.map Prod.snd).getD first

theorem lastWritten_cons (first : UInt8) (address other : UInt16) (value : UInt8)
    (rest : List (UInt16 × UInt8)) :
    lastWritten first ((address, value) :: rest) other =
      lastWritten (if address = other then value else first) rest other := by
  by_cases same : address = other
  next =>
    simp only [lastWritten, List.filter_cons, same, decide_true, if_true, List.getLast?_cons]
    cases (rest.filter (·.1 = other)).getLast? <;> rfl
  next => simp [lastWritten, same]

namespace SerialLink

def transmitted (first : UInt8) (writes : List (UInt16 × UInt8)) : List UInt8 :=
  (List.range writes.length).filterMap fun i =>
    if writes[i]? = some (controlRegister, start) then
      some (lastWritten first (writes.take i) dataRegister)
    else none

theorem transmitted_append (first : UInt8) (writes : List (UInt16 × UInt8)) (address : UInt16)
    (value : UInt8) :
    transmitted first (writes ++ [(address, value)]) =
      transmitted first writes ++
        if address = controlRegister ∧ value = start then [lastWritten first writes dataRegister]
        else [] := by
  have earlier : ∀ i ∈ List.range writes.length,
      (if (writes ++ [(address, value)])[i]? = some (controlRegister, start) then
        some (lastWritten first ((writes ++ [(address, value)]).take i) dataRegister) else none) =
      if writes[i]? = some (controlRegister, start) then
        some (lastWritten first (writes.take i) dataRegister) else none := by
    intro i member
    have within := List.mem_range.mp member
    rw [List.getElem?_append_left within, List.take_append_of_le_length (Nat.le_of_lt within)]
  simp only [transmitted, List.length_append, List.length_singleton, List.range_succ,
    List.filterMap_append, List.filterMap_congr earlier]
  congr 1
  by_cases starts : address = controlRegister ∧ value = start <;> simp [starts]

theorem length_transmitted (first : UInt8) (writes : List (UInt16 × UInt8)) :
    (transmitted first writes).length = writes.count (controlRegister, start) := by
  induction writes using List.reverseRecOn with
  | nil => rfl
  | append_singleton writes write ih =>
    obtain ⟨address, value⟩ := write
    rw [transmitted_append, List.length_append, List.count_append, ih, List.count_singleton]
    by_cases starts : address = controlRegister ∧ value = start <;> simp [starts]

end SerialLink

namespace Recorder

theorem writes_append (first second : List Access) :
    writes (first ++ second) = writes first ++ writes second :=
  List.filterMap_append

theorem writes_readsFrom (address : UInt16) (values : List UInt8) :
    writes (readsFrom address values) = [] := by
  induction values generalizing address with
  | nil => rfl
  | cons value rest ih => exact ih (address + 1)

end Recorder

theorem Memory.read_replay (memory : Memory) (accesses : List Access) (address : UInt16) :
    (memory.replay accesses).read address =
      lastWritten (memory.read address) (Recorder.writes accesses) address := by
  induction accesses generalizing memory with
  | nil => rfl
  | cons access rest ih =>
    cases access with
    | read => exact ih memory
    | write there value =>
      have tail : Recorder.writes (.write there value :: rest) =
          (there, value) :: Recorder.writes rest := rfl
      rw [replay, ih, read_write, tail, lastWritten_cons]
      simp only [eq_comm]

structure Recorder.Transmits (first : Memory) (earlier : List UInt8)
    (recorder : Recorder SerialLink) (link : SerialLink) : Prop where
  holds : recorder.bus = link
  stored : link.memory = first.replay recorder.accesses.toList
  answers : first.Answers recorder.accesses.toList
  sent : link.sent.toList = earlier ++
    SerialLink.transmitted (first.read SerialLink.dataRegister)
      (Recorder.writes recorder.accesses.toList)

namespace Recorder

variable {first : Memory} {earlier : List UInt8}

theorem simulation_transmits (first : Memory) (earlier : List UInt8) :
    Simulation (Transmits first earlier) where
  answer transmits address := by rw [← transmits.holds]; rfl
  read {recorder link} transmits address := by
    have recorded := accesses_read recorder address
    have found : (Bus.read recorder.bus address).1 = link.memory.read address := by
      rw [transmits.holds]
      rfl
    constructor
    case holds => exact transmits.holds
    case stored =>
      rw [recorded, Memory.replay_append, ← transmits.stored]
      rfl
    case answers =>
      rw [recorded, Memory.answers_append, ← transmits.stored]
      exact ⟨transmits.answers, found, trivial⟩
    case sent =>
      have unwritten : writes [.read address (Bus.read recorder.bus address).1] = [] := rfl
      rw [recorded, writes_append, unwritten, List.append_nil]
      exact transmits.sent
  write {recorder link} transmits address value := by
    have recorded := accesses_write recorder address value
    constructor
    case holds => rw [← transmits.holds]; rfl
    case stored =>
      rw [recorded, Memory.replay_append, ← transmits.stored]
      rfl
    case answers =>
      rw [recorded, Memory.answers_append]
      exact ⟨transmits.answers, trivial⟩
    case sent =>
      have last := Memory.read_replay first recorder.accesses.toList SerialLink.dataRegister
      rw [← transmits.stored] at last
      have written : writes [.write address value] = [(address, value)] := rfl
      have sends := SerialLink.sent_write link address value
      rw [transmits.sent, last, List.append_assoc, ← SerialLink.transmitted_append] at sends
      rw [recorded, writes_append, written]
      exact sends

end Recorder

namespace Microcode

variable {α γ : Type}

def Quiet (code : Microcode α) : Prop :=
  code.Ensures fun accesses _ => Recorder.writes accesses = []

def Spreads (code : Microcode α) : Prop :=
  code.Ensures fun accesses _ => ((Recorder.writes accesses).map Prod.fst).Nodup

theorem Quiet.bind {code : Microcode α} {f : α → Microcode γ} (quiet : code.Quiet)
    (follows : ∀ value, (f value).Spreads) : (code.bind f).Spreads := by
  apply Ensures.bind quiet
  next =>
    intro first value none
    refine (follows value).mono fun second _ spreads => ?_
    rwa [Recorder.writes_append, none]
  next =>
    intro first fault none
    rw [none]
    exact List.nodup_nil

theorem Spreads.bind {code : Microcode α} {f : α → Microcode γ} (spreads : code.Spreads)
    (quiet : ∀ value, (f value).Quiet) : (code.bind f).Spreads := by
  apply Ensures.bind spreads
  next =>
    intro first value written
    refine (quiet value).mono fun second _ none => ?_
    rwa [Recorder.writes_append, none, List.append_nil]
  next => exact fun first fault written => written

theorem quiet_done (value : α) : (done value).Quiet := rfl

theorem Quiet.spreads {code : Microcode α} (quiet : code.Quiet) : code.Spreads := by
  refine Ensures.mono quiet fun accesses _ none => ?_
  rw [none]
  exact List.nodup_nil

theorem writeWord_spreads (address value : UInt16) : (writeWord address value).Spreads := by
  exact List.nodup_cons.mpr ⟨by simp, List.nodup_singleton _⟩

end Microcode

open Microcode

namespace ByteOperand

theorem fetch_quiet (operand : ByteOperand) (cpu : Cpu) (pc : UInt16) :
    (operand.fetch cpu pc).Quiet := by
  cases operand with
  | register => rfl
  | immediate | indirect | highPage => exact fun _ => rfl
  | highPageImmediate => exact fun _ _ => rfl
  | absolute => exact fun _ _ _ => rfl

theorem store_spreads (operand : ByteOperand) (cpu : Cpu) (pc : UInt16) (value : UInt8) :
    (operand.store cpu pc value).Spreads := by
  cases operand with
  | immediate | register => exact List.nodup_nil
  | indirect | highPage => exact List.nodup_singleton _
  | highPageImmediate => exact fun _ => List.nodup_singleton _
  | absolute => exact fun _ _ => List.nodup_singleton _

end ByteOperand

namespace WordOperand

theorem fetch_quiet (operand : WordOperand) (cpu : Cpu) (pc : UInt16) :
    (operand.fetch cpu pc).Quiet := by
  cases operand with
  | register => rfl
  | immediate => exact fun _ _ => rfl
  | absolute => exact fun _ _ _ _ => rfl

theorem store_spreads (operand : WordOperand) (cpu : Cpu) (pc value : UInt16) :
    (operand.store cpu pc value).Spreads := by
  cases operand with
  | immediate | register => exact List.nodup_nil
  | absolute => exact fun _ _ => (writeWord_spreads _ value).bind fun _ => quiet_done cpu

end WordOperand

namespace Cpu

theorem push_spreads (cpu : Cpu) (value : UInt16) : (cpu.push value).Spreads :=
  (writeWord_spreads _ value).bind fun _ => quiet_done _

theorem pop_quiet (cpu : Cpu) : cpu.pop.Quiet := fun _ _ => rfl

end Cpu

namespace Executed

theorem proceed_spreads (next : UInt16) {code : Microcode Cpu} (spreads : code.Spreads) :
    (proceed next code).Spreads :=
  spreads.bind fun _ => quiet_done _

theorem branch_spreads (cpu : Cpu) (next : UInt16) (condition : Option Condition)
    {transfer : Microcode Executed} (spreads : transfer.Spreads) :
    (branch cpu next condition transfer).Spreads := by
  cases condition with
  | none => exact spreads
  | some condition =>
    rw [branch]
    split
    next => exact spreads.bind fun _ => quiet_done _
    next => exact (quiet_done _).spreads

end Executed

namespace Instruction

open Executed

-- An instruction stores one byte, or the two of a word, and so no address is written to twice.
theorem execute_spreads (instruction : Instruction) (cpu : Cpu) (pc length : UInt16) :
    (instruction.execute cpu pc length).Spreads := by
  cases instruction with
  | nop | addWord | stepWord | complement | complementCarry | setCarry | halt | setInterrupts
  | rotateAccumulator | jumpIndirect => exact List.nodup_nil
  | load target source =>
    exact proceed_spreads _ ((source.fetch_quiet cpu pc).bind (target.store_spreads cpu pc))
  | loadWord target source =>
    exact proceed_spreads _ ((source.fetch_quiet cpu pc).bind (target.store_spreads cpu pc))
  | loadStackAddress | addStackPointer | loadStepping => exact fun _ => List.nodup_nil
  | storeStepping => exact List.nodup_singleton _
  | push source => exact proceed_spreads _ (cpu.push_spreads _)
  | pop target => exact proceed_spreads _ (cpu.pop_quiet.bind fun _ => (quiet_done _).spreads)
  | operate operation source =>
    exact proceed_spreads _ ((source.fetch_quiet cpu pc).bind fun _ => (quiet_done _).spreads)
  | testBit index source =>
    exact proceed_spreads _ ((source.fetch_quiet cpu pc).bind fun _ => (quiet_done _).spreads)
  | stepByte direction target =>
    exact proceed_spreads _ ((target.fetch_quiet cpu pc).bind fun _ =>
      (target.store_spreads cpu pc _).bind fun _ => quiet_done _)
  | shift s target =>
    exact proceed_spreads _ ((target.fetch_quiet cpu pc).bind fun _ =>
      (target.store_spreads cpu pc _).bind fun _ => quiet_done _)
  | assignBit value index target =>
    exact proceed_spreads _ ((target.fetch_quiet cpu pc).bind fun _ =>
      target.store_spreads cpu pc _)
  | jump condition => exact branch_spreads _ _ condition fun _ _ => List.nodup_nil
  | jumpRelative condition => exact branch_spreads _ _ condition fun _ => List.nodup_nil
  | call condition =>
    exact branch_spreads _ _ condition fun _ _ => (cpu.push_spreads _).bind fun _ => quiet_done _
  | restart address => exact (cpu.push_spreads _).bind fun _ => quiet_done _
  | ret condition =>
    exact branch_spreads _ _ condition (cpu.pop_quiet.bind fun _ => (quiet_done _).spreads)
  | retInterrupt => exact (Cpu.pop_quiet _).bind fun _ => (quiet_done _).spreads

end Instruction

theorem fetchEntry_quiet (pc : UInt16) : (fetchEntry pc).Quiet := by
  refine (fetchEntry_ensures pc).mono ?_
  rintro _ _ (⟨opcodes, _, _, _, rfl⟩ | ⟨_, _, _, rfl⟩)
  next => exact Recorder.writes_readsFrom pc opcodes
  next => rfl

namespace Cpu

theorem step_spreads (cpu : Cpu) (pc : UInt16) : (cpu.step pc).Spreads := by
  rw [step]
  split
  next => exact (quiet_done _).spreads
  next =>
    exact (fetchEntry_quiet pc).bind fun entry =>
      (entry.instruction.execute_spreads cpu pc _).bind fun _ => rfl

theorem interrupt_spreads (cpu : Cpu) (pc vector : UInt16) : (cpu.interrupt pc vector).Spreads := by
  have entered (serving : Cpu) : ((serving.push pc).bind fun cpu =>
      done (vector, interruptCost, { cpu with pc := vector })).Spreads :=
    (serving.push_spreads pc).bind fun _ => quiet_done _
  cases halted : cpu.halted <;> cases enabled : cpu.interruptsEnabled <;>
    simp only [interrupt, halted, enabled]
  next => exact List.nodup_nil
  next => exact entered _
  next => exact List.nodup_nil
  next => exact entered _

end Cpu

def Command.isSingle : Command → Bool
  | .load .. | .run .. => false
  | _ => true

namespace Machine

variable {β : Type} [Bus β]

def commandAccesses (machine : Machine β) (commands : List Command) : List Access :=
  ((machine.recording #[]).applyAll commands).2.bus.accesses.toList

theorem perform_recording {α : Type} (machine : Machine β) (accesses : Array Access)
    (code : Cpu → Microcode (α × Cpu)) :
    (machine.recording accesses).perform code =
      ((machine.perform code).1, (machine.perform code).2.recording
        (accesses ++ ((code machine.cpu).trace machine.bus).toArray)) := by
  obtain ⟨cpu, bus, log⟩ := machine
  simp only [recording, perform, perform_recorder]
  rcases (code cpu).perform bus log with ⟨_ | _, _, _⟩
  next => rfl
  next => rfl

theorem exists_perform_of_single {command : Command} (single : command.isSingle = true) :
    ∃ code : Cpu → Microcode (Reply × Cpu), (∀ cpu, (code cpu).Spreads) ∧
      ∀ machine : Machine β, machine.apply command = machine.perform code := by
  cases command with
  | load | run => cases single
  | step pc cycles =>
    refine ⟨fun cpu => (cpu.step pc).bind fun stepped =>
      done (.progress ⟨stepped.next, cycles - stepped.cost⟩, stepped.cpu),
      fun cpu => (cpu.step_spreads pc).bind fun _ => quiet_done _, fun machine => ?_⟩
    obtain ⟨cpu, bus, log⟩ := machine
    simp only [apply, step, perform, perform_bind]
    rcases (cpu.step pc).perform bus log with ⟨_ | _, _, _⟩
    next => rfl
    next => rfl
  | execute instruction pc length =>
    simp only [apply]
    refine ⟨_, fun cpu => ?_, fun _ => rfl⟩
    exact (instruction.execute_spreads cpu pc length).bind fun _ => quiet_done _
  | interrupt pc cycles vector =>
    simp only [apply]
    refine ⟨_, fun cpu => ?_, fun _ => rfl⟩
    exact (cpu.interrupt_spreads pc vector).bind fun _ => quiet_done _
  | push value =>
    simp only [apply]
    refine ⟨_, fun cpu => ?_, fun _ => rfl⟩
    exact (cpu.push_spreads value).bind fun _ => quiet_done _
  | writeWord address value =>
    simp only [apply]
    refine ⟨_, fun _ => ?_, fun _ => rfl⟩
    exact (writeWord_spreads address value).bind fun _ => quiet_done _
  | writeByte =>
    simp only [apply]
    refine ⟨_, fun _ => ?_, fun _ => rfl⟩
    exact List.nodup_singleton _
  | pop | readWord =>
    simp only [apply]
    refine ⟨_, fun _ => ?_, fun _ => rfl⟩
    exact fun _ _ => List.nodup_nil
  | readByte | inspect =>
    simp only [apply]
    refine ⟨_, fun _ => ?_, fun _ => rfl⟩
    exact fun _ => List.nodup_nil
  | getByte | setByte | getWord | setWord | reset | boot =>
    simp only [apply]
    refine ⟨_, fun _ => ?_, fun _ => rfl⟩
    exact List.nodup_nil

theorem nodup_writes_of_single (machine : Machine β) {command : Command}
    (single : command.isSingle = true) :
    ((Recorder.writes (machine.commandAccesses [command])).map Prod.fst).Nodup := by
  obtain ⟨code, spreads, performs⟩ := exists_perform_of_single (β := Recorder β) single
  have accesses : machine.commandAccesses [command] = (code machine.cpu).trace machine.bus := by
    simp only [commandAccesses, applyAll, performs, perform_recording]
    simp [recording]
  rw [accesses]
  exact (spreads machine.cpu).perform machine.bus machine.log

theorem transmits_applyAll (machine : Machine SerialLink) (commands : List Command) :
    ((machine.recording #[]).applyAll commands).1 = (machine.applyAll commands).1 ∧
      Recorder.Transmits machine.bus.memory machine.bus.sent.toList
        ((machine.recording #[]).applyAll commands).2.bus (machine.applyAll commands).2.bus := by
  have start : Mirrors (Recorder.Transmits machine.bus.memory machine.bus.sent.toList)
      (machine.recording #[]) machine :=
    ⟨rfl, ⟨rfl, rfl, trivial, (List.append_nil _).symm⟩, rfl⟩
  obtain ⟨replies, ended⟩ := (performsAlike_mirrors
    (Recorder.simulation_transmits _ _)).applyAll start commands
  exact ⟨replies, ended.bus⟩

open SerialLink in
/-- What a new link has sent after a history of commands is a byte for each start of a transfer, in
the order of the writes, each the one last written to the data register. The memory behind it holds
what was written last, and so it has for every read on the way. -/
theorem sent_of_history (cpu : Cpu) (log : Log) (commands : List Command) :
    let serial : Machine SerialLink := ⟨cpu, {}, log⟩
    let accesses := serial.commandAccesses commands
    let link := (serial.applyAll commands).2.bus
    ((serial.recording #[]).applyAll commands).1 = (serial.applyAll commands).1 ∧
      link.sent.toList = transmitted 0 (Recorder.writes accesses) ∧
      link.sent.size = (Recorder.writes accesses).count (controlRegister, start) ∧
      (∀ address, link.memory.read address = lastWritten 0 (Recorder.writes accesses) address) ∧
      (∀ before address value after, accesses = before ++ .read address value :: after →
        value = lastWritten 0 (Recorder.writes before) address) ∧
      (∀ (machine : Machine SerialLink) (low : UInt8),
        (machine.apply (.writeWord dataRegister (word start low))).2.bus.sent.toList =
          machine.bus.sent.toList ++ [low]) ∧
      ∀ (machine : Machine SerialLink) (command : Command), command.isSingle →
        (controlRegister, start) ∈ Recorder.writes (machine.commandAccesses [command]) →
        ∃ byte, (machine.apply command).2.bus.sent.toList = machine.bus.sent.toList ++ [byte] := by
  intro serial accesses link
  obtain ⟨replies, transmits⟩ := transmits_applyAll serial commands
  have first (address : UInt16) : serial.bus.memory.read address = 0 := Memory.read_zero address
  have sent : link.sent.toList = transmitted 0 (Recorder.writes accesses) := by
    rw [transmits.sent, first]
    rfl
  refine ⟨replies, sent, ?_, fun address => ?_, fun before address value after made => ?_, ?_, ?_⟩
  next => rw [← Array.length_toList, sent, length_transmitted]
  next => rw [transmits.stored, Memory.read_replay, first]; rfl
  next =>
    have answers : serial.bus.memory.Answers (before ++ .read address value :: after) :=
      made ▸ transmits.answers
    rw [answers.read_eq, Memory.read_replay, first]
  next =>
    intro machine low
    have next : dataRegister + 1 = controlRegister := rfl
    have quiet : dataRegister ≠ controlRegister := by decide
    simp [apply, perform, writeWord, writeByte, Microcode.perform, Bus.write, SerialLink.write,
      next, quiet]
  next =>
    intro machine command single starts
    obtain ⟨-, transmits⟩ := transmits_applyAll machine [command]
    have once := List.count_eq_one_of_mem (machine.nodup_writes_of_single single).of_map starts
    obtain ⟨byte, alone⟩ := List.length_eq_one_iff.mp
      ((length_transmitted (machine.bus.memory.read dataRegister) _).trans once)
    exact ⟨byte, alone ▸ transmits.sent⟩

-- The control register is one short of the value that starts a transfer.
def arming : Machine SerialLink where
  cpu := { h := 0xff, l := 0x02 }
  bus := { memory := (Memory.zero.write 0xff01 0x41).write 0xff02 0x80 }

theorem writes_arming : Recorder.writes
    (arming.commandAccesses [.execute (.stepByte .up (.indirect .hl)) 0 1]) = [(0xff02, 0x81)] := by
  have target : word 0xff 0x02 = 0xff02 := by decide
  simp [arming, commandAccesses, recording, applyAll, apply, perform, Microcode.perform,
    Instruction.execute, Executed.proceed, ByteOperand.fetch, ByteOperand.store, ByteOperand.place,
    Place.fetch, Place.store, readByte, writeByte, Bus.read, Bus.write, Cpu.getWord, target,
    Direction.byte, Recorder.writes]

theorem sent_of_history_arming :
    (Command.execute (.stepByte .up (.indirect .hl)) 0 1).isSingle = true ∧
    (SerialLink.controlRegister, SerialLink.start) ∈ Recorder.writes
      (arming.commandAccesses [.execute (.stepByte .up (.indirect .hl)) 0 1]) ∧
    (∃ byte, (arming.apply (.execute (.stepByte .up (.indirect .hl)) 0 1)).2.bus.sent.toList =
      [byte]) ∧
    (7 : UInt8) = lastWritten 0 [(0x8000, 7)] 0x8000 := by
  obtain ⟨-, -, -, -, reads, -, single⟩ :=
    sent_of_history {} {} [.writeByte 0x8000 7, .readByte 0x8000]
  have starts : (SerialLink.controlRegister, SerialLink.start) ∈ Recorder.writes
      (arming.commandAccesses [.execute (.stepByte .up (.indirect .hl)) 0 1]) := by
    rw [writes_arming]
    exact List.mem_singleton.mpr rfl
  refine ⟨rfl, starts, single arming _ rfl starts, ?_⟩
  refine reads [.write 0x8000 7] 0x8000 7 [] ?_
  simp [commandAccesses, recording, applyAll, apply, perform, Microcode.perform, readByte,
    writeByte, Bus.read, Bus.write, SerialLink.write]

end Machine

end Sm83
