import Sm83.Proofs.Footprint.Instruction
import Sm83.Proofs.OpcodeTable

set_option autoImplicit false

namespace Sm83

open Microcode hiding perform

namespace Log

def recordAll (log : Log) (events : List Event) : Log :=
  events.foldl record log

theorem recordAll_append (log : Log) (first second : List Event) :
    log.recordAll (first ++ second) = (log.recordAll first).recordAll second :=
  List.foldl_append

theorem toList_events_recordAll (log : Log) (events : List Event) :
    (log.recordAll events).events.toList =
      log.events.toList ++ events.filter log.filter.keeps := by
  induction events generalizing log with
  | nil => simp [recordAll]
  | cons event rest ih =>
    have later := ih (log.record event)
    rw [filter_record, toList_events_record, List.append_assoc, ← List.filter_append] at later
    exact later

end Log

namespace Microcode

variable {α γ : Type}

def Silent : Microcode α → Prop
  | done _ | fail _ => True
  | read _ next => ∀ value, (next value).Silent
  | write _ _ next => (next ()).Silent
  | note _ _ => False

theorem Silent.bind {code : Microcode α} {f : α → Microcode γ} (silent : code.Silent)
    (follows : ∀ value, (f value).Silent) : (code.bind f).Silent := by
  induction code with
  | done value => exact follows value
  | fail fault => trivial
  | read address next ih => exact fun value => ih value (silent value)
  | write address value next ih => exact ih () silent
  | note event next => exact silent.elim

theorem Silent.perform_log {β : Type} [Bus β] {code : Microcode α} (silent : code.Silent) (bus : β)
    (log : Log) : (code.perform bus log).log = log := by
  induction code generalizing bus with
  | done | fail => rfl
  | read address next ih => exact ih _ (silent _) _
  | write address value next ih => exact ih () silent _
  | note event next => exact silent.elim

end Microcode

namespace ByteOperand

variable (operand : ByteOperand) (cpu : Cpu) (pc : UInt16)

theorem fetch_silent : (operand.fetch cpu pc).Silent := by
  cases operand with
  | register => trivial
  | immediate | indirect | highPage => exact fun _ => trivial
  | highPageImmediate => exact fun _ _ => trivial
  | absolute => exact fun _ _ _ => trivial

theorem store_silent (value : UInt8) : (operand.store cpu pc value).Silent := by
  cases operand with
  | immediate | register | indirect | highPage => trivial
  | highPageImmediate => exact fun _ => trivial
  | absolute => exact fun _ _ => trivial

end ByteOperand

namespace WordOperand

variable (operand : WordOperand) (cpu : Cpu) (pc : UInt16)

theorem fetch_silent : (operand.fetch cpu pc).Silent := by
  cases operand with
  | register => trivial
  | immediate => exact fun _ _ => trivial
  | absolute => exact fun _ _ _ _ => trivial

theorem store_silent (value : UInt16) : (operand.store cpu pc value).Silent := by
  cases operand with
  | immediate | register => trivial
  | absolute => exact fun _ _ => trivial

end WordOperand

namespace Executed

theorem proceed_silent (next : UInt16) {code : Microcode Cpu} (silent : code.Silent) :
    (proceed next code).Silent :=
  silent.bind fun _ => trivial

theorem branch_silent (cpu : Cpu) (next : UInt16) (condition : Option Condition)
    {transfer : Microcode Executed} (silent : transfer.Silent) :
    (branch cpu next condition transfer).Silent := by
  cases condition with
  | none => exact silent
  | some condition =>
    rw [branch]
    split
    next => exact silent.bind fun _ => trivial
    next => trivial

end Executed

namespace Instruction

open Executed

theorem execute_silent {instruction : Instruction} (goes : instruction ≠ .halt) (cpu : Cpu)
    (pc length : UInt16) : (instruction.execute cpu pc length).Silent := by
  cases instruction with
  | halt => exact absurd rfl goes
  | nop | addWord | stepWord | complement | complementCarry | setCarry | setInterrupts
  | rotateAccumulator | jumpIndirect | storeStepping | push | restart => trivial
  | loadStackAddress | addStackPointer | loadStepping => exact fun _ => trivial
  | pop | retInterrupt => exact fun _ _ => trivial
  | load target source =>
    exact proceed_silent _ ((source.fetch_silent cpu pc).bind (target.store_silent cpu pc))
  | loadWord target source =>
    exact proceed_silent _ ((source.fetch_silent cpu pc).bind (target.store_silent cpu pc))
  | operate operation source =>
    exact proceed_silent _ ((source.fetch_silent cpu pc).bind fun _ => trivial)
  | testBit index source =>
    exact proceed_silent _ ((source.fetch_silent cpu pc).bind fun _ => trivial)
  | stepByte direction target =>
    exact proceed_silent _ ((target.fetch_silent cpu pc).bind fun _ =>
      (target.store_silent cpu pc _).bind fun _ => trivial)
  | shift s target =>
    exact proceed_silent _ ((target.fetch_silent cpu pc).bind fun _ =>
      (target.store_silent cpu pc _).bind fun _ => trivial)
  | assignBit value index target =>
    exact proceed_silent _ ((target.fetch_silent cpu pc).bind fun _ =>
      target.store_silent cpu pc _)
  | jump condition => exact branch_silent _ _ condition fun _ _ => trivial
  | jumpRelative condition => exact branch_silent _ _ condition fun _ => trivial
  | call condition => exact branch_silent _ _ condition fun _ _ => trivial
  | ret condition => exact branch_silent _ _ condition fun _ _ => trivial

def reports (instruction : Instruction) (pc : UInt16) : List Event :=
  if instruction = .halt then [.halting pc] else []

variable {β : Type} [Bus β]

theorem log_execute (instruction : Instruction) (cpu : Cpu) (pc length : UInt16) (bus : β)
    (log : Log) :
    ((instruction.execute cpu pc length).perform bus log).log =
      log.recordAll (instruction.reports pc) := by
  by_cases halts : instruction = .halt
  next =>
    subst halts
    rfl
  next =>
    rw [reports, if_neg halts]
    exact (execute_silent halts cpu pc length).perform_log bus log

end Instruction

theorem Encodes.exists_perform {β : Type} [Bus β] {opcodes : List UInt8} {entry : Entry}
    (encodes : Encodes opcodes entry) (cpu : Cpu) (pc length : UInt16) (bus : β) (log : Log) :
    ∃ executed after, (entry.instruction.execute cpu pc length).perform bus log =
      ⟨.ok executed, after, log.recordAll (entry.instruction.reports pc)⟩ := by
  have logged := entry.instruction.log_execute cpu pc length bus log
  have ended := (Instruction.execute_leaves encodes.sound.orderly cpu pc length).perform bus log
  rcases performed : (entry.instruction.execute cpu pc length).perform bus log with ⟨_, after, _⟩
  rw [performed] at ended logged
  obtain ⟨executed, _, rfl, -⟩ := ended
  exact ⟨executed, after, by rw [← logged]⟩

end Sm83
