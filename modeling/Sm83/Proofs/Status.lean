import Sm83.Proofs.Confinement
import Sm83.Proofs.StepFootprint

set_option autoImplicit false

namespace Sm83

structure Status where
  pc : UInt16
  interruptsEnabled : Bool
  halted : Bool
  deriving DecidableEq, Repr

namespace Cpu

def status (cpu : Cpu) : Status :=
  ⟨cpu.pc, cpu.interruptsEnabled, cpu.halted⟩

def withStatus (cpu : Cpu) (status : Status) : Cpu :=
  { cpu with
    pc := status.pc
    interruptsEnabled := status.interruptsEnabled
    halted := status.halted }

theorem confined_withStatus (status : Status) : Confined .pc (withStatus · status) where
  getByte cpu r := by cases r <;> rfl
  setByte cpu r value := by cases r <;> rfl
  getWord {r} other cpu := by
    cases r with
    | pc => exact absurd rfl other
    | _ => rfl
  setWord {r} other cpu value := by
    cases r with
    | pc => exact absurd rfl other
    | _ => rfl

end Cpu

def ByteOperand.names (r : WordRegister) (operand : ByteOperand) : Bool :=
  operand = .indirect r

def WordOperand.names (r : WordRegister) (operand : WordOperand) : Bool :=
  operand = .register r

namespace Instruction

def names (r : WordRegister) : Instruction → Bool
  | load target source => target.names r || source.names r
  | loadWord target source => target.names r || source.names r
  | operate _ operand | stepByte _ operand | shift _ operand | testBit _ operand
  | assignBit _ _ operand => operand.names r
  | push other | pop other | addWord other | stepWord _ other => other = r
  | _ => false

def settleStatus (status : Status) : Instruction → Status
  | halt => { status with halted := true }
  | setInterrupts enabled => { status with interruptsEnabled := enabled }
  | retInterrupt => { status with interruptsEnabled := true }
  | _ => status

end Instruction

theorem Encodes.not_names_pc {opcodes : List UInt8} {entry : Entry}
    (encodes : Encodes opcodes entry) : entry.instruction.names .pc = false :=
  encodes.of_table (fun _ entry => entry.instruction.names .pc = false) (by decide +kernel)
    (by decide +kernel)

open Microcode

namespace Executed

def withStatus (executed : Executed) (status : Status) : Executed :=
  { executed with cpu := executed.cpu.withStatus status }

end Executed

namespace Instruction

open Executed Cpu

theorem execute_withStatus {instruction : Instruction} (apart : instruction.names .pc = false)
    (cpu : Cpu) (status : Status) (pc length : UInt16) :
    instruction.execute (cpu.withStatus status) pc length =
      (instruction.execute cpu pc length).bind fun executed =>
        done (executed.withStatus (instruction.settleStatus status)) := by
  have confined := confined_withStatus status
  cases instruction with
  | nop | loadStackAddress | loadStepping | storeStepping | addStackPointer | complement
  | complementCarry | setCarry | halt | setInterrupts | rotateAccumulator | jumpIndirect | restart
  | retInterrupt => rfl
  | load target source =>
    obtain ⟨target, source⟩ := (Bool.or_eq_false_iff).mp apart
    simp only [execute, proceed, ByteOperand.fetch_confined confined (of_decide_eq_false source),
      ByteOperand.store_confined confined (of_decide_eq_false target), bind_eq, bind_assoc]
    rfl
  | loadWord target source =>
    obtain ⟨target, source⟩ := (Bool.or_eq_false_iff).mp apart
    simp only [execute, proceed, WordOperand.fetch_confined confined (of_decide_eq_false source),
      WordOperand.store_confined confined (of_decide_eq_false target), bind_eq, bind_assoc]
    rfl
  | push source =>
    simp only [execute, confined.getWord (of_decide_eq_false apart)]
    rfl
  | pop target => cases target <;> first | rfl | cases apart
  | operate operation source =>
    simp only [execute, proceed, ByteOperand.fetch_confined confined (of_decide_eq_false apart),
      bind_eq, bind_assoc]
    rfl
  | addWord source =>
    simp only [execute, proceed, confined.getWord (of_decide_eq_false apart)]
    rfl
  | stepByte direction target =>
    have apart := of_decide_eq_false apart
    simp only [execute, proceed, ByteOperand.fetch_confined confined apart,
      ByteOperand.store_confined confined apart, bind_eq, bind_assoc]
    rfl
  | stepWord direction target =>
    simp only [execute, proceed, confined.stepWord (of_decide_eq_false apart)]
    rfl
  | shift s target =>
    have apart := of_decide_eq_false apart
    have flags : (cpu.withStatus status).flags = cpu.flags := rfl
    simp only [execute, proceed, ByteOperand.fetch_confined confined apart, flags,
      ByteOperand.store_confined confined apart, bind_eq, bind_assoc]
    rfl
  | testBit index source =>
    simp only [execute, proceed, ByteOperand.fetch_confined confined (of_decide_eq_false apart),
      bind_eq, bind_assoc]
    rfl
  | assignBit value index target =>
    have apart := of_decide_eq_false apart
    simp only [execute, proceed, ByteOperand.fetch_confined confined apart,
      ByteOperand.store_confined confined apart, bind_eq, bind_assoc]
    rfl
  | jump condition | jumpRelative condition | call condition | ret condition =>
    exact branch_change (withStatus · status) (fun _ _ => rfl) _ rfl

theorem settleStatus_pc (instruction : Instruction) (status : Status) (pc : UInt16) :
    instruction.settleStatus { status with pc } = { instruction.settleStatus status with pc } := by
  cases instruction <;> rfl

theorem execute_eq_settled {instruction : Instruction} (apart : instruction.names .pc = false)
    (cpu : Cpu) (pc length : UInt16) :
    instruction.execute cpu pc length =
      (instruction.execute cpu pc length).bind fun executed =>
        done (executed.withStatus (instruction.settleStatus cpu.status)) :=
  execute_withStatus apart cpu cpu.status pc length

end Instruction

namespace Cpu

def withPc (cpu : Cpu) (pc : UInt16) : Cpu :=
  { cpu with pc }

theorem executeEntry_withPc {entry : Entry} (apart : entry.instruction.names .pc = false)
    (cpu : Cpu) (field pc : UInt16) :
    (cpu.withPc field).executeEntry pc entry = cpu.executeEntry pc entry := by
  have moved := Instruction.execute_withStatus apart cpu { cpu.status with pc := field } pc
    (UInt16.ofNat entry.length)
  have settled := Instruction.execute_eq_settled apart cpu pc (UInt16.ofNat entry.length)
  change entry.instruction.execute (cpu.withPc field) pc _ = _ at moved
  rw [executeEntry, executeEntry, moved, Instruction.settleStatus_pc]
  conv => rhs; rw [settled]
  simp only [bind_eq, bind_assoc]
  rfl

theorem step_withPc (cpu : Cpu) (field pc : UInt16) : (cpu.withPc field).step pc = cpu.step pc := by
  cases running : cpu.halted with
  | true => simp [step, withPc, running]
  | false =>
    have entries : (fetchEntry pc).Ensures fun _ ending => ∀ entry, ending = .ok entry →
        (cpu.withPc field).executeEntry pc entry = cpu.executeEntry pc entry := by
      refine (fetchEntry_ensures pc).mono fun _ _ fetched entry ending => ?_
      obtain ⟨opcodes, _, ended, encodes, -⟩ | ⟨_, -, ended, -⟩ := fetched
      next =>
        cases ended.symm.trans ending
        exact executeEntry_withPc encodes.not_names_pc cpu field pc
      next => cases ended.symm.trans ending
    have still : (cpu.withPc field).halted = false := running
    simp only [step, running, still, Bool.false_eq_true, if_false, bind_eq]
    exact entries.bind_congr

theorem executeEntry_settles {entry : Entry} (apart : entry.instruction.names .pc = false)
    (cpu : Cpu) (pc : UInt16) :
    (cpu.executeEntry pc entry).Ensures fun _ ending => ∀ stepped, ending = .ok stepped →
      (∃ taken, stepped.cost = entry.cost taken) ∧
        stepped.cpu.status =
          { entry.instruction.settleStatus cpu.status with pc := stepped.next } := by
  rw [executeEntry, Instruction.execute_eq_settled apart cpu pc, bind_eq, bind_assoc]
  apply Ensures.bind (ensures_true _)
  next =>
    intro _ executed _ stepped ending
    cases ending
    exact ⟨⟨executed.taken, rfl⟩, rfl⟩
  next =>
    intro _ fault _ stepped ending
    cases ending

theorem step_settles {cpu : Cpu} (running : cpu.halted = false) (pc : UInt16) :
    (cpu.step pc).Ensures fun accesses ending => ∀ stepped, ending = .ok stepped →
      ∃ opcodes entry rest, Encodes opcodes entry ∧ accesses = readsFrom pc opcodes ++ rest ∧
        (∃ taken, stepped.cost = entry.cost taken) ∧
        stepped.cpu.status =
          { entry.instruction.settleStatus cpu.status with pc := stepped.next } := by
  simp only [step, running, Bool.false_eq_true, if_false, bind_eq]
  apply Ensures.bind (fetchEntry_ensures pc)
  next =>
    intro first entry fetched
    obtain ⟨opcodes, _, ⟨⟩, encodes, rfl⟩ | ⟨_, _, ⟨⟩, _⟩ := fetched
    refine (executeEntry_settles encodes.not_names_pc cpu pc).mono ?_
    intro rest _ settles stepped ending
    exact ⟨opcodes, entry, rest, encodes, rfl, settles stepped ending⟩
  next =>
    intro _ fault _ stepped ending
    cases ending

end Cpu

namespace Machine

variable {β : Type} [Bus β] {machine after : Machine β} {pc : UInt16} {stepped : Stepped}

theorem settles_of_step_ok (running : machine.cpu.halted = false)
    (step : machine.step pc = (.ok stepped, after)) :
    ∃ opcodes entry rest, Encodes opcodes entry ∧
      machine.stepAccesses pc = readsFrom pc opcodes ++ rest ∧
      (∃ taken, stepped.cost = entry.cost taken) ∧
      after.cpu.status =
        { entry.instruction.settleStatus machine.cpu.status with pc := stepped.next } := by
  have ensured := (Cpu.step_settles running pc).perform machine.bus machine.log
  obtain ⟨performed, same⟩ := perform_of_step_ok step
  rw [same]
  exact ensured stepped (by rw [performed])

theorem pc_of_step_ok (step : machine.step pc = (.ok stepped, after)) :
    after.cpu.pc = stepped.next := by
  cases running : machine.cpu.halted with
  | true =>
    rw [step_of_halted machine pc running] at step
    cases step
    rfl
  | false =>
    obtain ⟨_, _, _, _, _, _, status⟩ := settles_of_step_ok running step
    exact congrArg Status.pc status

end Machine

end Sm83
