import Sm83.Proofs.Recording
import Sm83.Proofs.Transparency

set_option autoImplicit false

namespace Sm83

def Access.address : Access → UInt16
  | read address _ | write address _ => address

def FirstRead (accesses : List Access) (address : UInt16) : Prop :=
  ∃ value, accesses.find? (fun access => access.address = address) = some (.read address value)

def Written (accesses : List Access) (address : UInt16) : Prop :=
  ∃ value, .write address value ∈ accesses

theorem FirstRead.cons {access : Access} {rest : List Access} {address : UInt16}
    (first : FirstRead rest address) (other : access.address ≠ address) :
    FirstRead (access :: rest) address := by
  obtain ⟨value, found⟩ := first
  exact ⟨value, by simpa [List.find?_cons, other] using found⟩

theorem firstRead_head (address : UInt16) (value : UInt8) (rest : List Access) :
    FirstRead (.read address value :: rest) address :=
  ⟨value, by simp [Access.address]⟩

theorem Written.cons {rest : List Access} {address : UInt16} (written : Written rest address)
    (access : Access) : Written (access :: rest) address := by
  obtain ⟨value, member⟩ := written
  exact ⟨value, List.mem_cons_of_mem _ member⟩

namespace Memory

variable {memory other : Memory} {accesses : List Access}

-- After a write both memories hold the same byte there, so it is no longer asked for.
theorem Answers.of_agree (answers : memory.Answers accesses)
    (agree : ∀ address, FirstRead accesses address → other.read address = memory.read address) :
    other.Answers accesses := by
  induction accesses generalizing memory other with
  | nil => trivial
  | cons access rest ih =>
    cases access with
    | read address value =>
      have here := agree address (firstRead_head address value rest)
      refine ⟨answers.1.trans here.symm, ih answers.2 fun later first => ?_⟩
      by_cases same : address = later
      next => rw [← same, here]
      next => exact agree later (first.cons same)
    | write address value =>
      refine ih answers fun later first => ?_
      rw [read_write, read_write]
      split
      next => rfl
      next differs => exact agree later (first.cons fun same => differs same.symm)

theorem read_replay_of_not_written {address : UInt16} (untouched : ¬ Written accesses address) :
    (memory.replay accesses).read address = memory.read address := by
  induction accesses generalizing memory with
  | nil => rfl
  | cons access rest ih =>
    have later : ¬ Written rest address := fun written => untouched (written.cons access)
    cases access with
    | read => exact ih later
    | write there value =>
      have elsewhere : address ≠ there := by
        rintro rfl
        exact untouched ⟨value, List.mem_cons_self⟩
      rw [replay, ih later, read_write, if_neg elsewhere]

theorem read_replay_congr {address : UInt16}
    (covered : Written accesses address ∨ other.read address = memory.read address) :
    (other.replay accesses).read address = (memory.replay accesses).read address := by
  induction accesses generalizing memory other with
  | nil =>
    obtain ⟨_, ⟨⟩⟩ | agree := covered
    exact agree
  | cons access rest ih =>
    cases access with
    | read there value =>
      refine ih (covered.imp_left ?_)
      rintro ⟨_, _ | ⟨_, member⟩⟩
      exact ⟨_, member⟩
    | write there value =>
      apply ih
      by_cases same : address = there
      next => exact .inr (by simp [same])
      next =>
        simp only [read_write, if_neg same]
        refine covered.imp_left ?_
        rintro ⟨_, _ | ⟨_, member⟩⟩
        next => exact absurd rfl same
        next => exact ⟨_, member⟩

end Memory

namespace Microcode

variable {α : Type}

-- The answers to its reads are all that code gets from a memory.
theorem perform_of_answers {code : Microcode α} {memory other : Memory}
    (answers : other.Answers (code.trace memory)) (log : Log) :
    code.trace other = code.trace memory ∧
      code.perform other log =
        { code.perform memory log with bus := other.replay (code.trace memory) } := by
  induction code generalizing memory other log with
  | done | fail => exact ⟨rfl, rfl⟩
  | read address next ih =>
    obtain ⟨here, answers⟩ := answers
    have here : other.read address = memory.read address := here.symm
    obtain ⟨trace, result⟩ := ih (memory.read address) answers log
    constructor
    next => simp only [Microcode.trace, Bus.read, here, trace]
    next => simp only [Microcode.trace, perform, Bus.read, here, result, Memory.replay]
  | write address value next ih =>
    obtain ⟨trace, result⟩ := ih () answers log
    exact ⟨congrArg (Access.write address value :: ·) trace, result⟩
  | note event next ih => exact ih () answers (log.record event)

end Microcode

namespace Machine

variable {machine after : Machine Memory} {other : Memory} {pc : UInt16} {budget : Int}

def onto (machine : Machine Memory) (other : Memory) : Machine Memory :=
  { machine with bus := other }

theorem step_onto (answers : other.Answers (machine.stepAccesses pc)) :
    (machine.onto other).step pc =
        ((machine.step pc).1,
          (machine.step pc).2.onto (other.replay (machine.stepAccesses pc))) ∧
      (machine.onto other).stepAccesses pc = machine.stepAccesses pc := by
  obtain ⟨trace, performed⟩ := Microcode.perform_of_answers answers machine.log
  refine ⟨?_, trace⟩
  obtain ⟨cpu, memory, log⟩ := machine
  simp only [onto, step, stepAccesses] at performed ⊢
  rw [performed]
  rcases (cpu.step pc).perform memory log with ⟨_ | _, _, _⟩
  next => rfl
  next => rfl

theorem run_onto (answers : other.Answers (machine.accesses pc budget)) :
    (machine.onto other).run pc budget =
        ((machine.run pc budget).1,
          (machine.run pc budget).2.onto (other.replay (machine.accesses pc budget))) ∧
      (machine.onto other).accesses pc budget = machine.accesses pc budget := by
  induction machine, pc, budget using run_induction generalizing other with
  | spent machine pc budget spent =>
    simp [run_of_nonpos _ _ spent, accesses_of_nonpos _ _ spent, Memory.replay]
  | stepped machine pc budget positive ih =>
    rcases step : machine.step pc with ⟨fault | stepped, after⟩
    next =>
      rw [accesses_of_step_error positive step] at answers ⊢
      obtain ⟨moved, same⟩ := step_onto answers
      rw [step] at moved
      rw [run_of_pos _ _ positive, run_of_pos _ _ positive, moved, step,
        accesses_of_step_error positive moved]
      exact ⟨rfl, same⟩
    next =>
      rw [accesses_of_step_ok positive step] at answers ⊢
      obtain ⟨first, rest⟩ := (Memory.answers_append _ _ _).mp answers
      obtain ⟨moved, same⟩ := step_onto first
      obtain ⟨continues, others⟩ := ih stepped after step rest
      rw [step] at moved
      rw [run_of_pos _ _ positive, run_of_pos _ _ positive, moved, step,
        accesses_of_step_ok positive moved, same, others]
      exact ⟨by simpa only [Memory.replay_append] using continues, rfl⟩

theorem accounts_of_run (machine : Machine Memory) (pc : UInt16) (budget : Int) :
    (machine.run pc budget).2.bus = machine.bus.replay (machine.accesses pc budget) ∧
      machine.bus.Answers (machine.accesses pc budget) := by
  have start : Mirrors (Recorder.Accounts machine.bus #[]) (machine.recording #[]) machine :=
    ⟨rfl, Recorder.accounts_refl _ _, rfl⟩
  have ended := (start.run (Recorder.simulation_accounts _ _) pc budget).2
  obtain ⟨made, recorded, final, answers⟩ := ended.bus.recorded
  have own : machine.accesses pc budget = made := by simpa [accesses] using recorded
  rw [own]
  exact ⟨final, answers⟩

theorem run_local (agree : ∀ address, FirstRead (machine.accesses pc budget) address →
      other.read address = machine.bus.read address) :
    ∃ result after final,
      machine.run pc budget = (result, after) ∧
      (machine.onto other).run pc budget = (result, after.onto final) ∧
      (machine.onto other).accesses pc budget = machine.accesses pc budget ∧
      (∀ address, FirstRead (machine.accesses pc budget) address ∨
          Written (machine.accesses pc budget) address →
        final.read address = after.bus.read address) ∧
      ∀ address, ¬ Written (machine.accesses pc budget) address →
        after.bus.read address = machine.bus.read address ∧
          final.read address = other.read address := by
  obtain ⟨bus, answers⟩ := accounts_of_run machine pc budget
  obtain ⟨ran, same⟩ := run_onto (answers.of_agree agree)
  refine ⟨_, _, _, rfl, ran, same, ?_, ?_⟩
  next =>
    intro address covered
    rw [bus]
    exact Memory.read_replay_congr (covered.symm.imp_right (agree address))
  next =>
    intro address untouched
    rw [bus]
    exact ⟨Memory.read_replay_of_not_written untouched,
      Memory.read_replay_of_not_written untouched⟩

def incrementing : Machine Memory where
  cpu := { h := 0x80 }
  bus := Memory.zero.write 0 0x34

theorem accesses_incrementing :
    incrementing.accesses 0 3 = [.read 0 0x34, .read 0x8000 0, .write 0x8000 1] := by
  have known : decode 0x34 = some ⟨.stepByte .up (.indirect .hl), 1, 3, 0, by decide⟩ := rfl
  have target : word 0x80 0 = 0x8000 := by decide
  simp [incrementing, accesses, recording, run_of_pos, run_of_nonpos, step, Cpu.step, fetchEntry,
    Cpu.executeEntry, Microcode.perform, Microcode.readByte, Microcode.writeByte, Microcode.log,
    Bus.read, Bus.write, Memory.read_write, known, target, Instruction.execute, Executed.proceed,
    ByteOperand.fetch, ByteOperand.store, ByteOperand.place, Place.fetch, Place.store, Cpu.getWord,
    Direction.byte, Cpu.noteStep, Entry.cost]

theorem run_local_incrementing :
    (∀ address, FirstRead (incrementing.accesses 0 3) address →
      (incrementing.bus.write 0x9000 7).read address = incrementing.bus.read address) ∧
    ∃ result after final, incrementing.run 0 3 = (result, after) ∧
      (incrementing.onto (incrementing.bus.write 0x9000 7)).run 0 3 = (result, after.onto final) ∧
      final.read 0x8000 = after.bus.read 0x8000 ∧
      after.bus.read 0x9000 = 0 ∧ final.read 0x9000 = 7 := by
  have agree : ∀ address, FirstRead (incrementing.accesses 0 3) address →
      (incrementing.bus.write 0x9000 7).read address = incrementing.bus.read address := by
    rintro address ⟨value, found⟩
    have member := List.mem_of_find?_eq_some found
    rw [accesses_incrementing] at member
    have known : address ≠ 0x9000 := by rintro rfl; simp at member
    rw [Memory.read_write, if_neg known]
  obtain ⟨result, after, final, ran, moved, -, covered, kept⟩ := run_local agree
  rw [accesses_incrementing] at covered kept
  have untouched : ¬ Written [.read 0 0x34, .read 0x8000 0, .write 0x8000 1] 0x9000 := by
    simp [Written]
  obtain ⟨plain, changed⟩ := kept 0x9000 untouched
  refine ⟨agree, result, after, final, ran, moved, covered 0x8000 (.inr ⟨1, by simp⟩), ?_, ?_⟩
  next => simpa [incrementing, Memory.read_write] using plain
  next => simpa [Memory.read_write] using changed

end Machine

end Sm83
