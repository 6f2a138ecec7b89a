import Sm83.Proofs.FlatMemory
import Sm83.Proofs.StepFootprint

set_option autoImplicit false

namespace Sm83

namespace Microcode

variable {α γ β : Type} [Bus β]

-- What follows adds nothing to the accesses unless it makes some of its own.
theorem trace_bind_of_quiet (code : Microcode α) {f : α → Microcode γ}
    (quiet : ∀ value (bus : β), (f value).trace bus = []) (bus : β) :
    (code.bind f).trace bus = code.trace bus := by
  induction code generalizing bus with
  | done value => exact quiet value bus
  | fail fault => rfl
  | read address next ih => simp only [read_bind, trace, ih]
  | write address value next ih => simp only [write_bind, trace, ih]
  | note event next ih => simp only [note_bind, trace, ih]

end Microcode

open Microcode

theorem ne_extension_of_decode {opcode : UInt8} {entry : Entry}
    (known : decode opcode = some entry) : opcode ≠ 0xcb := by
  rintro rfl
  cases known

section FetchEntry

variable {β : Type} [Bus β] {bus : β} {pc : UInt16}

theorem perform_fetchEntry {entry : Entry} (known : decode (Bus.read bus pc).1 = some entry)
    (log : Log) :
    (fetchEntry pc).perform bus log =
      ⟨.ok entry, (Bus.read bus pc).2, log.record (.fetched (Bus.read bus pc).1 pc false)⟩ := by
  simp [fetchEntry, perform, readByte, Microcode.log, ne_extension_of_decode known, known]

theorem perform_fetchEntry_extended (extended : (Bus.read bus pc).1 = 0xcb) (log : Log) :
    let second := Bus.read (Bus.read bus pc).2 (pc + 1)
    (fetchEntry pc).perform bus log =
      ⟨.ok (decodeExtended second.1), second.2, log.record (.fetched second.1 pc true)⟩ := by
  simp [fetchEntry, perform, readByte, Microcode.log, extended]

theorem perform_fetchEntry_unknown (single : (Bus.read bus pc).1 ≠ 0xcb)
    (unknown : decode (Bus.read bus pc).1 = none) (log : Log) :
    let fault := Fault.unknownOpcode (Bus.read bus pc).1 pc false
    (fetchEntry pc).perform bus log = ⟨.error fault, (Bus.read bus pc).2,
      (log.record (.fetched (Bus.read bus pc).1 pc false)).record (.refused fault)⟩ := by
  simp [fetchEntry, perform, readByte, Microcode.log, single, unknown]

end FetchEntry

namespace Machine

-- How many cycles there are makes no difference but to how many are left.
theorem apply_step_of_apply_step {β : Type} [Bus β] {machine after : Machine β}
    {pc next : UInt16} {cost : Nat} {cycles : Int} (step : machine.apply (.step pc cycles) =
      (.ok (.progress ⟨next, cycles - cost⟩), after)) (other : Int) :
    machine.apply (.step pc other) = (.ok (.progress ⟨next, other - cost⟩), after) := by
  match ran : machine.step pc with
  | (.error fault, stopped) =>
    rw [apply_step_of_step_error ran] at step
    cases step
  | (.ok stepped, later) =>
    rw [apply_step_of_step_ok ran] at step ⊢
    simp only [Prod.mk.injEq, Except.ok.injEq, Reply.progress.injEq, Progress.mk.injEq] at step ⊢
    obtain ⟨⟨rfl, left⟩, rfl⟩ := step
    exact ⟨⟨rfl, by omega⟩, rfl⟩

section OnBus

variable {β : Type} [Bus β] {machine : Machine β} {fetched after : β} {pc length : UInt16}
  {entry : Entry} {executed : Executed} {cost : Nat}

theorem exists_apply_step_of_fetches (running : machine.cpu.halted = false)
    (fetches : ∀ log, ∃ later,
      (fetchEntry pc).perform machine.bus log = ⟨.ok entry, fetched, later⟩)
    (occupies : UInt16.ofNat entry.length = length)
    (performed : ∀ log, (entry.instruction.execute machine.cpu pc length).perform fetched log =
      ⟨.ok executed, after, log⟩)
    (costs : entry.cost executed.taken = cost) (cycles : Int) :
    ∃ log, machine.apply (.step pc cycles) =
      (.ok (.progress ⟨executed.next, cycles - cost⟩),
        ⟨{ executed.cpu with pc := executed.next }, after, log⟩) := by
  obtain ⟨cpu, bus, log⟩ := machine
  have running : cpu.halted = false := running
  subst occupies costs
  let moved : Cpu := { executed.cpu with pc := executed.next }
  have executes : ∀ log, (cpu.executeEntry pc entry).perform fetched log =
      ⟨.ok ⟨moved, executed.next, entry.cost executed.taken, entry.cost_pos _⟩, after,
        log.record (.executed entry.instruction moved)⟩ := by
    intro log
    rw [Cpu.executeEntry, bind_eq, perform_bind, performed]
    rfl
  obtain ⟨later, fetches⟩ := fetches log
  simp only [apply, step, Cpu.step, running, Bool.false_eq_true, if_false, bind_eq, perform_bind,
    fetches, executes]
  exact ⟨_, rfl⟩

theorem exists_apply_step_on_bus (running : machine.cpu.halted = false)
    (known : decode (Bus.read machine.bus pc).1 = some entry)
    (occupies : UInt16.ofNat entry.length = length)
    (performed : ∀ log, (entry.instruction.execute machine.cpu pc length).perform
      (Bus.read machine.bus pc).2 log = ⟨.ok executed, after, log⟩)
    (costs : entry.cost executed.taken = cost) (cycles : Int) :
    ∃ log, machine.apply (.step pc cycles) =
      (.ok (.progress ⟨executed.next, cycles - cost⟩),
        ⟨{ executed.cpu with pc := executed.next }, after, log⟩) :=
  exists_apply_step_of_fetches running (fun log => ⟨_, perform_fetchEntry known log⟩) occupies
    performed costs cycles

theorem exists_apply_step_opened {waiting : Machine β} {opcode : UInt8}
    (same : waiting.cpu = machine.cpu) (running : machine.cpu.halted = false)
    (opened : Bus.read waiting.bus pc = (opcode, machine.bus)) (known : decode opcode = some entry)
    (occupies : UInt16.ofNat entry.length = length)
    (performed : ∀ log, (entry.instruction.execute machine.cpu pc length).perform machine.bus log =
      ⟨.ok executed, after, log⟩)
    (costs : entry.cost executed.taken = cost) (cycles : Int) :
    ∃ log, waiting.apply (.step pc cycles) =
      (.ok (.progress ⟨executed.next, cycles - cost⟩),
        ⟨{ executed.cpu with pc := executed.next }, after, log⟩) := by
  rw [← same] at running performed
  have stands : decode (Bus.read waiting.bus pc).1 = some entry := by rw [opened, known]
  have left (log : Log) : (entry.instruction.execute waiting.cpu pc length).perform
      (Bus.read waiting.bus pc).2 log = ⟨.ok executed, after, log⟩ := by rw [opened, performed]
  exact exists_apply_step_on_bus running stands occupies left costs cycles

end OnBus

variable {machine : Machine Memory} {pc length : UInt16} {entry : Entry} {executed : Executed}
  {memory : Memory} {cost : Nat}

theorem exists_apply_step (running : machine.cpu.halted = false)
    (known : decode (machine.bus.read pc) = some entry)
    (occupies : UInt16.ofNat entry.length = length)
    (performed : ∀ log, (entry.instruction.execute machine.cpu pc length).perform machine.bus log =
      ⟨.ok executed, memory, log⟩)
    (costs : entry.cost executed.taken = cost) (cycles : Int) :
    ∃ log, machine.apply (.step pc cycles) =
      (.ok (.progress ⟨executed.next, cycles - cost⟩),
        ⟨{ executed.cpu with pc := executed.next }, memory, log⟩) :=
  exists_apply_step_on_bus running known occupies performed costs cycles

theorem exists_apply_step_extended (running : machine.cpu.halted = false)
    (extended : machine.bus.read pc = 0xcb)
    (known : decodeExtended (machine.bus.read (pc + 1)) = entry)
    (performed : ∀ log, (entry.instruction.execute machine.cpu pc 2).perform machine.bus log =
      ⟨.ok executed, memory, log⟩)
    (costs : entry.cost executed.taken = cost) (cycles : Int) :
    ∃ log, machine.apply (.step pc cycles) =
      (.ok (.progress ⟨executed.next, cycles - cost⟩),
        ⟨{ executed.cpu with pc := executed.next }, memory, log⟩) := by
  subst known
  exact exists_apply_step_of_fetches running
    (fun log => ⟨_, perform_fetchEntry_extended extended log⟩) rfl performed costs cycles

theorem stepAccesses_of_decode (running : machine.cpu.halted = false)
    (known : decode (machine.bus.read pc) = some entry) :
    machine.stepAccesses pc = .read pc (machine.bus.read pc) ::
      (entry.instruction.execute machine.cpu pc (UInt16.ofNat entry.length)).trace machine.bus := by
  have ending : (machine.cpu.executeEntry pc entry).trace machine.bus =
      (entry.instruction.execute machine.cpu pc (UInt16.ofNat entry.length)).trace machine.bus :=
    trace_bind_of_quiet _ (fun _ _ => rfl) _
  simp only [stepAccesses, Cpu.step, running, Bool.false_eq_true, if_false]
  simp [fetchEntry, readByte, Microcode.log, trace, Bus.read, ne_extension_of_decode known, known,
    ending]

end Machine

namespace Opcode

theorem immediateLength_operand (digit : Fin 8) : (operand digit).immediateLength = 0 := by
  match digit with
  | 0 | 1 | 2 | 3 | 4 | 5 | 6 | 7 => rfl

theorem operandCycles_eq (digit : Fin 8) (inRegister inMemory : Nat) :
    operandCycles digit inRegister inMemory = if digit = 6 then inMemory else inRegister := by
  simp only [operandCycles, Fin.ext_iff]
  rfl

end Opcode

namespace Machine

-- The byte that a digit names: one of seven registers, or the byte at `HL`.
def named (machine : Machine Memory) : Fin 8 → UInt8
  | 0 => machine.cpu.b
  | 1 => machine.cpu.c
  | 2 => machine.cpu.d
  | 3 => machine.cpu.e
  | 4 => machine.cpu.h
  | 5 => machine.cpu.l
  | 6 => machine.bus.read (word machine.cpu.h machine.cpu.l)
  | 7 => machine.cpu.a

theorem perform_fetch_operand (machine : Machine Memory) (digit : Fin 8) (pc : UInt16) (log : Log) :
    ((Opcode.operand digit).fetch machine.cpu pc).perform machine.bus log =
      ⟨.ok (machine.named digit), machine.bus, log⟩ := by
  match digit with
  | 0 | 1 | 2 | 3 | 4 | 5 | 6 | 7 => rfl

end Machine

end Sm83
