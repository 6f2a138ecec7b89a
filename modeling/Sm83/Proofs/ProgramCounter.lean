import Sm83.Proofs.Recording
import Sm83.Proofs.Simulation
import Sm83.Proofs.Status

set_option autoImplicit false

namespace Sm83

inductive Call where
  | step (cycles : Int)
  | run (budget : Int)
  | interrupt (cycles : Int) (vector : UInt16)
  deriving DecidableEq, Repr

def Call.command (pc : UInt16) : Call → Command
  | step cycles => .step pc cycles
  | run budget => .run pc budget
  | interrupt cycles vector => .interrupt pc cycles vector

def standing : Except Fault Reply → Option UInt16
  | .ok (.progress progress) => some progress.pc
  | .error (.unknownOpcode _ pc _) => some pc
  | _ => none

theorem map_eq_of_forall₂ {α γ δ : Type} {related : α → γ → Prop} {f : α → δ} {g : γ → δ}
    {first : List α} {second : List γ} (pairs : List.Forall₂ related first second)
    (same : ∀ ⦃a b⦄, related a b → f a = g b) : first.map f = second.map g := by
  rw [← List.forall₂_eq_eq_eq]
  exact List.rel_map same pairs

namespace Machine

open Microcode hiding perform

section Stored

variable {β : Type}

def withPc (machine : Machine β) (pc : UInt16) : Machine β :=
  { machine with cpu := machine.cpu.withPc pc }

def SameButPc (left right : Machine β) : Prop :=
  ∃ pc, right = left.withPc pc

theorem sameButPc_refl (machine : Machine β) : SameButPc machine machine :=
  ⟨machine.cpu.pc, rfl⟩

end Stored

variable {β : Type} [Bus β] {machine left right : Machine β} {pc : UInt16}

def course (machine : Machine β) (pc : UInt16) : List Call → List (Except Fault Reply × Machine β)
  | [] => []
  | call :: rest =>
    let (reply, after) := machine.apply (call.command pc)
    (reply, after) :: match reply with
      | .ok (.progress progress) => after.course progress.pc rest
      | _ => []

-- A step that succeeds brings the stored addresses together; one that fails leaves them.
theorem stepsAlike_sameButPc : StepsAlike (SameButPc (β := β)) := by
  intro left right same pc
  obtain ⟨field, rfl⟩ := same
  obtain ⟨cpu, bus, log⟩ := left
  simp only [withPc, step, Cpu.step_withPc]
  rcases (cpu.step pc).perform bus log with ⟨_ | stepped, _, _⟩
  next => exact ⟨rfl, field, rfl⟩
  next => exact ⟨rfl, sameButPc_refl _⟩

theorem SameButPc.interrupt (same : SameButPc left right) (pc : UInt16) (cycles : Int)
    (vector : UInt16) :
    (left.apply (.interrupt pc cycles vector)).1 = (right.apply (.interrupt pc cycles vector)).1 ∧
      SameButPc (left.apply (.interrupt pc cycles vector)).2
        (right.apply (.interrupt pc cycles vector)).2 := by
  obtain ⟨field, rfl⟩ := same
  cases enabled : left.cpu.interruptsEnabled with
  | true =>
    rw [apply_interrupt_of_enabled left enabled,
      apply_interrupt_of_enabled (left.withPc field) enabled]
    exact ⟨rfl, sameButPc_refl _⟩
  | false =>
    rw [apply_interrupt_of_disabled left enabled,
      apply_interrupt_of_disabled (left.withPc field) enabled]
    exact ⟨rfl, field, rfl⟩

theorem SameButPc.apply (same : SameButPc left right) (call : Call) (pc : UInt16) :
    (left.apply (call.command pc)).1 = (right.apply (call.command pc)).1 ∧
      SameButPc (left.apply (call.command pc)).2 (right.apply (call.command pc)).2 := by
  cases call with
  | step cycles =>
    obtain ⟨result, after⟩ := stepsAlike_sameButPc same pc
    exact ⟨by simp only [Call.command, Machine.apply, result], after⟩
  | run budget =>
    obtain ⟨result, after⟩ := stepsAlike_sameButPc.run same pc budget
    exact ⟨by simp only [Call.command, Machine.apply, result], after⟩
  | interrupt cycles vector => exact same.interrupt pc cycles vector

theorem SameButPc.course (same : SameButPc left right) (pc : UInt16) (calls : List Call) :
    List.Forall₂ (fun first second => first.1 = second.1 ∧ SameButPc first.2 second.2)
      (left.course pc calls) (right.course pc calls) := by
  induction calls generalizing left right pc with
  | nil => exact .nil
  | cons call rest ih =>
    have alike := same.apply call pc
    rcases applied : left.apply (call.command pc) with ⟨reply, after⟩
    rcases other : right.apply (call.command pc) with ⟨_, _⟩
    rw [applied, other] at alike
    obtain ⟨⟨⟩, afterwards⟩ := alike
    simp only [Machine.course, applied, other]
    refine .cons ⟨rfl, afterwards⟩ ?_
    split
    next progress => exact ih afterwards progress.pc
    next => exact .nil

theorem standing_run (stored : machine.cpu.pc = pc) (budget : Int) :
    standing ((machine.run pc budget).1.map .progress) = some (machine.run pc budget).2.cpu.pc := by
  induction machine, pc, budget using run_induction with
  | spent machine pc budget spent =>
    rw [run_of_nonpos _ _ spent, stored]
    rfl
  | stepped machine pc budget positive ih =>
    match step : machine.step pc with
    | (.ok stepped, after) =>
      rw [run_of_pos _ _ positive, step]
      exact ih stepped after step (pc_of_step_ok step)
    | (.error fault, stopped) =>
      obtain ⟨_, opcode, _, rfl, _⟩ := refused_of_step_error step
      rw [run_of_pos _ _ positive, step, (perform_of_step_error step).2, stored]
      rfl

theorem standing_apply (stored : machine.cpu.pc = pc) (call : Call) :
    standing (machine.apply (call.command pc)).1 =
      some (machine.apply (call.command pc)).2.cpu.pc := by
  cases call with
  | step cycles =>
    match step : machine.step pc with
    | (.ok stepped, after) =>
      simp [Call.command, apply, step, Except.map, standing, pc_of_step_ok step]
    | (.error fault, stopped) =>
      obtain ⟨_, opcode, _, rfl, _⟩ := refused_of_step_error step
      simp [Call.command, apply, step, Except.map, standing, (perform_of_step_error step).2, stored]
  | run budget => exact standing_run stored budget
  | interrupt cycles vector =>
    cases enabled : machine.cpu.interruptsEnabled with
    | true =>
      rw [Call.command, apply_interrupt_of_enabled machine enabled]
      rfl
    | false =>
      rw [Call.command, apply_interrupt_of_disabled machine enabled]
      exact congrArg some stored.symm

theorem standing_course (stored : machine.cpu.pc = pc) (calls : List Call) :
    ∀ entry ∈ machine.course pc calls, standing entry.1 = some entry.2.cpu.pc := by
  induction calls generalizing machine pc with
  | nil => simp [course]
  | cons call rest ih =>
    have here := standing_apply stored call
    rcases applied : machine.apply (call.command pc) with ⟨reply, after⟩
    rw [applied] at here
    simp only [course, applied, List.forall_mem_cons]
    refine ⟨here, ?_⟩
    split
    next progress => exact ih (Option.some.inj here).symm
    next => exact List.forall_mem_nil _

/-- Machines that differ in nothing but the stored address cannot be told apart by calls that are
each made where the one before has got to, nor by what is accessed on the way. If the stored address
is that of the first call, it is what each of the calls returns. -/
theorem course_withPc (machine : Machine β) (field pc : UInt16) (calls : List Call) :
    List.Forall₂ (fun first second => first.1 = second.1 ∧ SameButPc first.2 second.2)
        (machine.course pc calls) ((machine.withPc field).course pc calls) ∧
      (∀ earlier, ((machine.recording earlier).course pc calls).map (·.2.bus.accesses) =
        (((machine.withPc field).recording earlier).course pc calls).map (·.2.bus.accesses)) ∧
      (machine.cpu.pc = pc →
        ∀ entry ∈ machine.course pc calls, standing entry.1 = some entry.2.cpu.pc) := by
  refine ⟨SameButPc.course ⟨field, rfl⟩ pc calls, fun earlier => ?_,
    fun stored => standing_course stored calls⟩
  have same : SameButPc (machine.recording earlier) ((machine.withPc field).recording earlier) :=
    ⟨field, rfl⟩
  refine map_eq_of_forall₂ (same.course pc calls) fun before after entries => ?_
  obtain ⟨_, _, same⟩ := entries
  simp only [same]
  rfl

-- The handler jumps to an opcode that is not in the table.
def stranding : Machine Memory where
  cpu := { sp := 0x8000, pc := 0x0100, interruptsEnabled := true }
  bus := ((Memory.zero.write 0x40 0x18).write 0x41 0x01).write 0x43 0xd3

theorem course_stranding : ∃ first second third,
    stranding.course 0x0100 [.run 0, .interrupt 20 0x40, .run 5] =
      [(.ok (.progress ⟨0x0100, 0⟩), first), (.ok (.progress ⟨0x40, 15⟩), second),
        (.error (.unknownOpcode 0xd3 0x43 false), third)] := by
  have known : decode 0x18 = some ⟨.jumpRelative none, 2, 3, 0, by decide⟩ := rfl
  have unknown : decode 0xd3 = none := rfl
  have target : relativeTarget 0x40 0x01 = 0x43 := by decide
  simp [stranding, course, Call.command, apply, perform, Cpu.interrupt, Cpu.push, writeWord,
    writeByte, run_of_pos, run_of_nonpos, step, Cpu.step, fetchEntry, Cpu.executeEntry,
    Microcode.perform, readByte, Microcode.log, Bus.read, Bus.write, Memory.read_write, known,
    unknown, target, Instruction.execute, Executed.branch, Instruction.transferRelative, Entry.cost,
    Cpu.interruptCost, Except.map]

theorem course_withPc_stranding :
    stranding.cpu.pc = 0x0100 ∧ ∃ first second third,
      stranding.course 0x0100 [.run 0, .interrupt 20 0x40, .run 5] =
        [(.ok (.progress ⟨0x0100, 0⟩), first), (.ok (.progress ⟨0x40, 15⟩), second),
          (.error (.unknownOpcode 0xd3 0x43 false), third)] ∧
      first.cpu.pc = 0x0100 ∧ second.cpu.pc = 0x40 ∧ third.cpu.pc = 0x43 ∧
      ∀ field, ((stranding.withPc field).course 0x0100
        [.run 0, .interrupt 20 0x40, .run 5]).map Prod.fst =
        [.ok (.progress ⟨0x0100, 0⟩), .ok (.progress ⟨0x40, 15⟩),
          .error (.unknownOpcode 0xd3 0x43 false)] := by
  obtain ⟨first, second, third, ran⟩ := course_stranding
  have same := course_withPc stranding
  have stored := (same 0 0x0100 [.run 0, .interrupt 20 0x40, .run 5]).2.2 rfl
  rw [ran] at stored
  simp only [List.forall_mem_cons, standing, Option.some.injEq] at stored
  obtain ⟨one, two, three, _⟩ := stored
  refine ⟨rfl, first, second, third, ran, one.symm, two.symm, three.symm, fun field => ?_⟩
  have alike := (same field 0x0100 [.run 0, .interrupt 20 0x40, .run 5]).1
  rw [← map_eq_of_forall₂ alike fun _ _ entries => entries.1, ran]
  rfl

end Machine

end Sm83
