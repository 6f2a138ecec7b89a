import Sm83.Proofs.Accesses
import Sm83.Proofs.Simulation

set_option autoImplicit false

namespace Sm83

structure Recorder.Accounts (first : Memory) (earlier : Array Access) (recorder : Recorder Memory)
    (memory : Memory) : Prop where
  holds : recorder.bus = memory
  recorded : ∃ made, recorder.accesses.toList = earlier.toList ++ made ∧
    memory = first.replay made ∧ first.Answers made

namespace Recorder

variable {first memory : Memory} {earlier : Array Access} {recorder : Recorder Memory}

theorem accounts_refl (memory : Memory) (earlier : Array Access) :
    Accounts memory earlier ⟨memory, earlier⟩ memory :=
  ⟨rfl, [], by simp, rfl, trivial⟩

theorem Accounts.extend (accounts : Accounts first earlier recorder memory) (access : Access)
    {after : Recorder Memory} (answers : memory.Answers [access])
    (holds : after.bus = memory.replay [access])
    (recorded : after.accesses.toList = recorder.accesses.toList ++ [access]) :
    Accounts first earlier after (memory.replay [access]) := by
  obtain ⟨made, gained, rfl, answered⟩ := accounts.recorded
  refine ⟨holds, made ++ [access], ?_, ?_, ?_⟩
  next => rw [recorded, gained, List.append_assoc]
  next => rw [Memory.replay_append]
  next => exact (Memory.answers_append _ _ _).mpr ⟨answered, answers⟩

theorem simulation_accounts (first : Memory) (earlier : Array Access) :
    Simulation (Accounts first earlier) where
  answer accounts address := by
    obtain ⟨rfl, -⟩ := accounts
    rfl
  read {recorder memory} accounts address := by
    have recorded := accesses_read recorder address
    obtain ⟨rfl, -⟩ := id accounts
    exact accounts.extend (.read address _) ⟨rfl, trivial⟩ rfl recorded
  write {recorder memory} accounts address value := by
    have recorded := accesses_write recorder address value
    obtain ⟨rfl, -⟩ := id accounts
    exact accounts.extend (.write address value) trivial rfl recorded

end Recorder

theorem SerialLink.simulation_memory :
    Simulation fun (link : SerialLink) (memory : Memory) => link.memory = memory where
  answer holds address := by subst holds; rfl
  read holds address := holds
  write holds address value := by subst holds; rfl

-- Where a read stands in the record, it found what the writes before it had left.
theorem Memory.Answers.read_eq {memory : Memory} {before after : List Access} {address : UInt16}
    {value : UInt8} (answers : memory.Answers (before ++ .read address value :: after)) :
    value = (memory.replay before).read address :=
  ((answers_append _ _ _).mp answers).2.1

namespace Machine

theorem wrappers_transparent (cpu : Cpu) (memory : Memory) (log : Log) (earlier : Array Access)
    (sent : Array UInt8) (commands : List Command) :
    let flat : Machine Memory := ⟨cpu, memory, log⟩
    let recorder : Machine (Recorder Memory) := ⟨cpu, ⟨memory, earlier⟩, log⟩
    let serial : Machine SerialLink := ⟨cpu, ⟨memory, sent⟩, log⟩
    recorder.history Recorder.bus commands = flat.history id commands ∧
      serial.history SerialLink.memory commands = flat.history id commands ∧
      ∃ made, (recorder.applyAll commands).2.bus.accesses.toList = earlier.toList ++ made ∧
        (recorder.applyAll commands).2.bus.bus = memory.replay made ∧
        (flat.applyAll commands).2.bus = memory.replay made ∧
        (serial.applyAll commands).2.bus.memory = memory.replay made ∧
        ∀ before address value after, made = before ++ .read address value :: after →
          value = (memory.replay before).read address := by
  intro flat recorder serial
  have records := Recorder.simulation_accounts memory earlier
  have start : Mirrors (Recorder.Accounts memory earlier) recorder flat :=
    ⟨rfl, Recorder.accounts_refl memory earlier, rfl⟩
  have link : Mirrors (fun (link : SerialLink) memory => link.memory = memory) serial flat :=
    ⟨rfl, rfl, rfl⟩
  refine ⟨start.history records (fun _ _ accounts => accounts.holds) commands,
    link.history SerialLink.simulation_memory (fun _ _ holds => holds) commands, ?_⟩
  have accounts := (start.applyAll records commands).bus
  have holds := (link.applyAll SerialLink.simulation_memory commands).bus
  obtain ⟨made, gained, final, answers⟩ := accounts.recorded
  refine ⟨made, gained, accounts.holds.trans final, final, holds.trans final, ?_⟩
  rintro before address value after rfl
  exact answers.read_eq

end Machine

end Sm83
