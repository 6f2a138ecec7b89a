import Sm83.Machine
import Sm83.Proofs.OpcodeTable

set_option autoImplicit false

namespace Sm83

open Microcode

theorem fetchEntry_ensures (pc : UInt16) :
    (fetchEntry pc).Ensures fun accesses ending =>
      (∃ opcodes entry, ending = .ok entry ∧ Encodes opcodes entry ∧
        accesses = readsFrom pc opcodes) ∨
      ∃ opcode ∈ unknownOpcodes, ending = .error (.unknownOpcode opcode pc false) ∧
        accesses = [.read pc opcode] := by
  intro opcode
  by_cases extension : opcode = 0xcb
  next =>
    subst extension
    intro extended
    exact .inl ⟨_, _, rfl, .extended extended, rfl⟩
  next =>
    cases known : decode opcode with
    | none =>
      have unknown := ((decode_eq_none_iff opcode).mp known).resolve_left extension
      simp [extension, known, log]
      exact unknown
    | some entry =>
      simp [extension, known, log]
      exact ⟨_, .single known, rfl⟩

namespace Cpu

structure Executes (cpu : Cpu) (opcodes : List UInt8) (entry : Entry) (footprint : Footprint)
    (cost : Nat) : Prop where
  encodes : Encodes opcodes entry
  touches : entry.instruction.Touches cpu footprint
  cost_eq : cost = entry.cost (entry.instruction.takes cpu.flags)

namespace Executes

variable {cpu : Cpu} {opcodes : List UInt8} {entry : Entry} {footprint : Footprint} {cost : Nat}

-- The operands follow the opcode; the instruction of an opcode of two bytes has none.
theorem accesses_eq (executes : cpu.Executes opcodes entry footprint cost) (pc : UInt16) :
    readsFrom pc opcodes ++ footprint.accesses (pc + 1) =
      (Footprint.mk (opcodes ++ footprint.operands) footprint.reads footprint.writes).accesses pc := by
  cases executes.encodes with
  | single known => rfl
  | extended opcode =>
    have stated : (decodeExtended opcode).length = 2 := rfl
    have length := (decodeExtended_sound opcode).length
    have bare : (decodeExtended opcode).instruction.immediateLength = 0 := by omega
    have operands := executes.touches.length_operands
    rw [bare, ite_self] at operands
    simp [Footprint.accesses, List.eq_nil_of_length_eq_zero operands, readsFrom]

theorem length_eq (executes : cpu.Executes opcodes entry footprint cost) :
    (opcodes ++ footprint.operands).length =
      if entry.instruction.declines cpu.flags then opcodes.length else entry.length := by
  rw [List.length_append, executes.touches.length_operands, executes.encodes.sound.length]
  split <;> rfl

theorem size_le_cost (executes : cpu.Executes opcodes entry footprint cost) :
    opcodes.length + footprint.size ≤ cost := by
  have sound := executes.encodes.sound
  rw [executes.touches.size_eq, executes.cost_eq]
  by_cases declines : entry.instruction.declines cpu.flags
  next =>
    rw [if_pos declines]
    exact Nat.le_trans sound.begun (entry.cycles_le_cost _)
  next =>
    have covered := sound.covered
    rw [if_neg declines, Instruction.takes_of_proceeds declines]
    rw [sound.length] at covered
    omega

end Executes

theorem step_ensures {cpu : Cpu} (running : cpu.halted = false) (pc : UInt16) :
    (cpu.step pc).Ensures fun accesses ending =>
      (∃ stepped opcodes entry footprint, ending = .ok stepped ∧
        cpu.Executes opcodes entry footprint stepped.cost ∧
        accesses = readsFrom pc opcodes ++ footprint.accesses (pc + 1)) ∨
      ∃ opcode ∈ unknownOpcodes, ending = .error (.unknownOpcode opcode pc false) ∧
        accesses = [.read pc opcode] := by
  simp only [step, running, Bool.false_eq_true, if_false, bind_eq]
  apply Ensures.bind (fetchEntry_ensures pc)
  next =>
    rintro first entry (⟨opcodes, _, ⟨⟩, encodes, rfl⟩ | ⟨_, _, ⟨⟩, _⟩)
    apply Ensures.bind (Instruction.execute_leaves encodes.sound.orderly cpu pc _)
    next =>
      rintro second executed ⟨_, footprint, ⟨⟩, taken, touches, rfl⟩
      refine .inl ⟨_, opcodes, entry, footprint, rfl, ⟨encodes, touches, ?_⟩, ?_⟩
      next => simp only [taken]
      next => simp only [List.append_nil]
    next => rintro second fault ⟨_, _, ⟨⟩, -⟩
  next =>
    rintro first fault (⟨_, _, ⟨⟩, _⟩ | ⟨opcode, unknown, ⟨⟩, rfl⟩)
    exact .inr ⟨opcode, unknown, rfl, rfl⟩

end Cpu

namespace Machine

variable {β : Type} [Bus β] {machine after stopped : Machine β} {pc : UInt16} {stepped : Stepped}
  {fault : Fault}

def stepAccesses (machine : Machine β) (pc : UInt16) : List Access :=
  (machine.cpu.step pc).trace machine.bus

theorem perform_of_step_ok (step : machine.step pc = (.ok stepped, after)) :
    (machine.cpu.step pc).perform machine.bus machine.log = ⟨.ok stepped, after.bus, after.log⟩ ∧
      after.cpu = stepped.cpu := by
  rw [Machine.step] at step
  rcases performed : (machine.cpu.step pc).perform machine.bus machine.log with ⟨_ | _, _, _⟩
  next => simp only [performed, Prod.mk.injEq, reduceCtorEq, false_and] at step
  next =>
    simp only [performed, Prod.mk.injEq, Except.ok.injEq] at step
    obtain ⟨rfl, rfl⟩ := step
    exact ⟨rfl, rfl⟩

theorem perform_of_step_error (step : machine.step pc = (.error fault, stopped)) :
    (machine.cpu.step pc).perform machine.bus machine.log =
        ⟨.error fault, stopped.bus, stopped.log⟩ ∧
      stopped.cpu = machine.cpu := by
  rw [Machine.step] at step
  rcases performed : (machine.cpu.step pc).perform machine.bus machine.log with ⟨_ | _, _, _⟩
  next =>
    simp only [performed, Prod.mk.injEq, Except.error.injEq] at step
    obtain ⟨rfl, rfl⟩ := step
    exact ⟨rfl, rfl⟩
  next => simp only [performed, Prod.mk.injEq, reduceCtorEq, false_and] at step

theorem stepAccesses_of_halted (halted : machine.cpu.halted = true) (pc : UInt16) :
    machine.stepAccesses pc = [] := by
  simp [stepAccesses, Cpu.step, halted, trace]

theorem executes_of_step_ok (running : machine.cpu.halted = false)
    (step : machine.step pc = (.ok stepped, after)) :
    ∃ opcodes entry footprint, machine.cpu.Executes opcodes entry footprint stepped.cost ∧
      machine.stepAccesses pc = readsFrom pc opcodes ++ footprint.accesses (pc + 1) := by
  have ensured := (Cpu.step_ensures running pc).perform machine.bus machine.log
  rw [(perform_of_step_ok step).1] at ensured
  obtain ⟨_, opcodes, entry, footprint, ⟨⟩, executes, accesses⟩ | ⟨_, _, ⟨⟩, _⟩ := ensured
  exact ⟨opcodes, entry, footprint, executes, accesses⟩

theorem refused_of_step_error (step : machine.step pc = (.error fault, stopped)) :
    machine.cpu.halted = false ∧ ∃ opcode ∈ unknownOpcodes,
      fault = .unknownOpcode opcode pc false ∧ machine.stepAccesses pc = [.read pc opcode] := by
  cases running : machine.cpu.halted with
  | true =>
    rw [step_of_halted machine pc running] at step
    cases step
  | false =>
    have ensured := (Cpu.step_ensures running pc).perform machine.bus machine.log
    rw [(perform_of_step_error step).1] at ensured
    obtain ⟨_, _, _, _, ⟨⟩, _⟩ | ⟨opcode, unknown, ⟨⟩, accesses⟩ := ensured
    exact ⟨rfl, opcode, unknown, rfl, accesses⟩

theorem cost_of_step_ok (step : machine.step pc = (.ok stepped, after)) :
    stepped.cost ≤ 6 ∧ (machine.stepAccesses pc).length ≤ stepped.cost := by
  cases running : machine.cpu.halted with
  | true =>
    rw [step_of_halted machine pc running] at step
    cases step
    simp [stepAccesses_of_halted running]
  | false =>
    obtain ⟨opcodes, entry, footprint, executes, accesses⟩ := executes_of_step_ok running step
    have sound := executes.encodes.sound
    constructor
    next =>
      rw [executes.cost_eq]
      exact Nat.le_trans (entry.cost_le_takenCycles _) sound.bounded
    next =>
      rw [accesses]
      simpa using executes.size_le_cost

end Machine

end Sm83
