import Sm83.Proofs.FlatMemory

set_option autoImplicit false

namespace Sm83

inductive Pushes (cpu : Cpu) : Command → UInt16 → Prop where
  | word (value : UInt16) : Pushes cpu (.push value) value
  | register (source : WordRegister) (pc length : UInt16) :
      Pushes cpu (.execute (.push source) pc length) (cpu.getWord source)
  | call {condition : Option Condition} (pc length : UInt16)
      (holds : condition.all cpu.flags.holds = true) :
      Pushes cpu (.execute (.call condition) pc length) (pc + length)
  | restart (address pc length : UInt16) :
      Pushes cpu (.execute (.restart address) pc length) (pc + length)
  | interrupt (pc : UInt16) (cycles : Int) (vector : UInt16)
      (enabled : cpu.interruptsEnabled = true) : Pushes cpu (.interrupt pc cycles vector) pc

inductive Pops (cpu : Cpu) : Command → Prop where
  | word : Pops cpu .pop
  | register {target : WordRegister} (pc length : UInt16) (elsewhere : target ≠ .sp) :
      Pops cpu (.execute (.pop target) pc length)
  | ret {condition : Option Condition} (pc length : UInt16)
      (holds : condition.all cpu.flags.holds = true) :
      Pops cpu (.execute (.ret condition) pc length)
  | retInterrupt (pc length : UInt16) : Pops cpu (.execute .retInterrupt pc length)

def Command.Obtains : Command → UInt16 → Except Fault Reply → Cpu → Prop
  | .pop, word, reply, _ => reply = .ok (.word word)
  | .execute (.pop target) pc length, word, reply, cpu =>
    reply = .ok (.executed (pc + length) false) ∧
      cpu.getWord target = if target = .af then word &&& 0xff90 else word
  | .execute (.ret condition) _ _, word, reply, _ =>
    reply = .ok (.executed word condition.isSome)
  | .execute .retInterrupt _ _, word, reply, _ => reply = .ok (.executed word false)
  | _, _, _, _ => False

theorem Executed.branch_of_holds {cpu : Cpu} {condition : Option Condition}
    (holds : condition.all cpu.flags.holds = true) (next : UInt16)
    (transfer : Microcode Executed) :
    branch cpu next condition transfer =
      transfer.bind fun executed =>
        .done { executed with taken := executed.taken || condition.isSome } := by
  cases condition with
  | none => simpa [branch] using (Microcode.bind_done transfer).symm
  | some condition =>
    have holds : cpu.flags.holds condition = true := by simpa using holds
    simp [branch, holds]

namespace Machine

open Microcode hiding perform

variable {machine : Machine Memory} {command : Command} {word : UInt16}

theorem apply_of_pushes (pushes : Pushes machine.cpu command word) :
    ∃ reply cpu log, machine.apply command =
        (.ok reply, ⟨cpu, machine.bus.writeWord (machine.cpu.sp - 2) word, log⟩) ∧
      cpu.sp = machine.cpu.sp - 2 := by
  obtain ⟨cpu, memory, log⟩ := machine
  cases pushes with
  | word | register | restart =>
    simp only [apply, perform, Instruction.execute, Executed.proceed, bind_eq, bind_assoc,
      perform_bind, Cpu.perform_push]
    exact ⟨_, _, _, rfl, rfl⟩
  | call pc length holds =>
    simp only [apply, perform, Instruction.execute, Executed.branch_of_holds holds,
      Instruction.transferCall, bind_eq, bind_assoc, perform_bind, perform_readWord,
      Cpu.perform_push]
    exact ⟨_, _, _, rfl, rfl⟩
  | interrupt pc cycles vector enabled =>
    have enabled : cpu.interruptsEnabled = true := enabled
    cases halted : cpu.halted <;>
      simp only [apply, perform, Cpu.interrupt, halted, enabled, if_true, bind_eq, bind_assoc,
        perform_bind, Cpu.perform_push] <;>
      exact ⟨_, _, _, rfl, rfl⟩

theorem apply_of_pops (pops : Pops machine.cpu command) :
    ∃ reply cpu log, machine.apply command = (reply, ⟨cpu, machine.bus, log⟩) ∧
      cpu.sp = machine.cpu.sp + 2 ∧
      command.Obtains (machine.bus.readWord machine.cpu.sp) reply cpu := by
  obtain ⟨cpu, memory, log⟩ := machine
  cases pops with
  | word | retInterrupt =>
    simp only [apply, perform, Instruction.execute, Instruction.transferReturn, bind_eq, bind_assoc,
      perform_bind, Cpu.perform_pop]
    exact ⟨_, _, _, rfl, rfl, rfl⟩
  | @register target pc length elsewhere =>
    simp only [apply, perform, Instruction.execute, Executed.proceed, bind_eq, bind_assoc,
      perform_bind, Cpu.perform_pop]
    refine ⟨_, _, _, rfl, ?_, rfl, Cpu.getWord_setWord _ target _⟩
    cases target with
    | sp => exact absurd rfl elsewhere
    | _ => rfl
  | ret pc length holds =>
    simp only [apply, perform, Instruction.execute, Executed.branch_of_holds holds,
      Instruction.transferReturn, bind_eq, bind_assoc, perform_bind, Cpu.perform_pop]
    exact ⟨_, _, _, rfl, rfl, rfl⟩

end Machine

def Below (sp : UInt16) (count : Nat) (address : UInt16) : Prop :=
  ∃ k, k < count ∧ address = sp - 1 - UInt16.ofNat k

namespace Below

variable {sp address : UInt16} {count : Nat}

theorem mono {more : Nat} (below : Below sp count address) (le : count ≤ more) :
    Below sp more address := by
  obtain ⟨k, within, rfl⟩ := below
  exact ⟨k, by omega, rfl⟩

-- What is below a word on the stack is below the stack pointer before it.
theorem of_sub_two (below : Below (sp - 2) count address) : Below sp (count + 2) address := by
  obtain ⟨k, within, rfl⟩ := below
  refine ⟨k + 2, by omega, ?_⟩
  rw [UInt16.ofNat_add]
  have two : UInt16.ofNat 2 = 2 := rfl
  grind

theorem low : Below sp 2 (sp - 2) :=
  ⟨1, by omega, by have one : UInt16.ofNat 1 = 1 := rfl; grind⟩

theorem high : Below sp 2 (sp - 2 + 1) :=
  ⟨0, by omega, by have zero : UInt16.ofNat 0 = 0 := rfl; grind⟩

theorem not_above (i : Nat) (room : count + i < 65536) :
    ¬ Below sp count (sp + UInt16.ofNat i) := by
  rintro ⟨k, within, same⟩
  have around : UInt16.ofNat (i + k + 1) = 0 := by
    rw [UInt16.ofNat_add, UInt16.ofNat_add]
    have one : UInt16.ofNat 1 = 1 := rfl
    grind
  have multiple := congrArg UInt16.toNat around
  rw [UInt16.toNat_ofNat', UInt16.toNat_zero] at multiple
  omega

theorem not_self (room : count < 65536) : ¬ Below sp count sp := by
  have safe : ¬ Below sp count (sp + UInt16.ofNat 0) := not_above 0 room
  simpa using safe

theorem not_next (room : count + 1 < 65536) : ¬ Below sp count (sp + 1) :=
  not_above 1 room

end Below

structure Frame where
  word : UInt16
  sp : UInt16
  opened : Except Fault Reply
  closer : Command
  closed : Except Fault Reply
  cpu : Cpu

structure Frame.Kept (frame : Frame) : Prop where
  opened : ∃ reply, frame.opened = .ok reply
  obtained : frame.closer.Obtains frame.word frame.closed frame.cpu
  sp : frame.cpu.sp = frame.sp

/-- A well-nested use of the stack, with how deep it nests and its frames in the order in which
they are closed. -/
inductive Nested : Machine Memory → Nat → List Frame → Machine Memory → Prop where
  | nil (machine : Machine Memory) : Nested machine 0 [] machine
  -- Anything may happen that leaves the memory and the stack pointer alone.
  | quiet {machine middle after : Machine Memory} {depth : Nat} {frames : List Frame}
      (bus : middle.bus = machine.bus) (sp : middle.cpu.sp = machine.cpu.sp)
      (rest : Nested middle depth frames after) : Nested machine depth frames after
  | frame {machine inside after : Machine Memory} {opener closer : Command} {word : UInt16}
      {inner outer : Nat} {frames others : List Frame}
      (pushes : Pushes machine.cpu opener word)
      (body : Nested (machine.apply opener).2 inner frames inside)
      (pops : Pops inside.cpu closer)
      (rest : Nested (inside.apply closer).2 outer others after) :
      Nested machine (max (inner + 1) outer)
        (frames ++ ⟨word, machine.cpu.sp, (machine.apply opener).1, closer,
          (inside.apply closer).1, (inside.apply closer).2.cpu⟩ :: others) after

def Spares (depth : Nat) (machine after : Machine Memory) : Prop :=
  ∀ address, ¬ Below machine.cpu.sp (2 * depth) address →
    after.bus.read address = machine.bus.read address

theorem readWord_of_spares {depth : Nat} {machine after : Machine Memory}
    (spares : Spares depth machine after) (shallow : depth < 32768) :
    after.bus.readWord machine.cpu.sp = machine.bus.readWord machine.cpu.sp :=
  Memory.readWord_congr (spares _ (Below.not_self (by omega)))
    (spares _ (Below.not_next (by omega)))

namespace Nested

variable {machine inside after : Machine Memory} {opener closer : Command} {word : UInt16}
  {depth : Nat} {frames : List Frame}

theorem sp_eq (nested : Nested machine depth frames after) : after.cpu.sp = machine.cpu.sp := by
  induction nested with
  | nil => rfl
  | quiet _ sp _ ih => exact ih.trans sp
  | frame pushes _ pops _ ihBody ihRest =>
    obtain ⟨_, _, _, pushed, lowered⟩ := Machine.apply_of_pushes pushes
    obtain ⟨_, _, _, popped, raised, -⟩ := Machine.apply_of_pops pops
    rw [pushed, lowered] at ihBody
    rw [popped, raised, ihBody] at ihRest
    rw [ihRest]
    grind

theorem spares (nested : Nested machine depth frames after) : Spares depth machine after := by
  induction nested with
  | nil => exact fun _ _ => rfl
  | quiet bus sp _ ih =>
    rw [Spares, ← sp, ← bus]
    exact ih
  | @frame machine inside after opener closer word inner outer _ _ pushes body pops _ ihBody
      ihRest =>
    obtain ⟨_, _, _, pushed, lowered⟩ := Machine.apply_of_pushes pushes
    obtain ⟨_, final, _, popped, raised, -⟩ := Machine.apply_of_pops pops
    have sp := body.sp_eq
    rw [pushed, lowered] at sp
    have restored : final.sp = machine.cpu.sp := by rw [raised, sp]; grind
    rw [pushed, Spares, lowered] at ihBody
    rw [popped, Spares, restored] at ihRest
    intro address outside
    have own : ¬ Below machine.cpu.sp 2 address := fun below => outside (below.mono (by omega))
    have deeper : ¬ Below (machine.cpu.sp - 2) (2 * inner) address :=
      fun below => outside (below.of_sub_two.mono (by omega))
    have later : ¬ Below machine.cpu.sp (2 * outer) address :=
      fun below => outside (below.mono (by omega))
    rw [ihRest address later, ihBody address deeper]
    apply Memory.read_writeWord_of_ne
    next => exact fun same => own (same ▸ Below.low)
    next => exact fun same => own (same ▸ Below.high)

theorem frame_kept (pushes : Pushes machine.cpu opener word)
    (body : Nested (machine.apply opener).2 depth frames inside) (pops : Pops inside.cpu closer)
    (shallow : depth < 32768) :
    Frame.Kept ⟨word, machine.cpu.sp, (machine.apply opener).1, closer,
      (inside.apply closer).1, (inside.apply closer).2.cpu⟩ := by
  obtain ⟨reply, _, _, pushed, lowered⟩ := Machine.apply_of_pushes pushes
  obtain ⟨_, _, _, popped, raised, obtained⟩ := Machine.apply_of_pops pops
  have sp : inside.cpu.sp = machine.cpu.sp - 2 := by rw [body.sp_eq, pushed, lowered]
  have found : inside.bus.readWord inside.cpu.sp = word := by
    rw [body.sp_eq, readWord_of_spares body.spares shallow, pushed, lowered,
      Memory.readWord_writeWord_self]
  have restored : inside.cpu.sp + 2 = machine.cpu.sp := by rw [sp]; grind
  rw [found] at obtained
  rw [pushed, popped]
  exact ⟨⟨reply, rfl⟩, obtained, raised.trans restored⟩

end Nested

/-- Of a use of the stack no deeper than the stack is long, every word comes back, and with it the
stack pointer; only bytes below have changed. -/
theorem nested_stack_kept {machine after : Machine Memory} {depth : Nat} {frames : List Frame}
    (nested : Nested machine depth frames after) (shallow : depth ≤ 32768) :
    (∀ frame ∈ frames, frame.Kept) ∧ after.cpu.sp = machine.cpu.sp ∧
      ∀ address, ¬ Below machine.cpu.sp (2 * depth) address →
        after.bus.read address = machine.bus.read address := by
  refine ⟨?_, nested.sp_eq, nested.spares⟩
  induction nested with
  | nil => simp
  | quiet _ _ _ ih => exact ih shallow
  | @frame _ _ _ _ _ _ inner outer frames others pushes body pops _ ihBody ihRest =>
    have deeper : inner < 32768 := by omega
    intro frame member
    rcases List.mem_append.mp member with earlier | this | ⟨_, later⟩
    next => exact ihBody (by omega) frame earlier
    next => exact Nested.frame_kept pushes body pops deeper
    next => exact ihRest (by omega) frame later

-- With an odd stack pointer, so that the first frame straddles address zero.
def straddling : Machine Memory where
  cpu := { a := 0x12, flags := { zero := true }, sp := 1, interruptsEnabled := true }
  bus := .zero

-- An interrupt whose handler moves the flags to another register.
theorem nested_stack_kept_straddling :
    ∃ frames after, Nested straddling 2 frames after ∧ 2 ≤ 32768 ∧
      frames.map Frame.word = [0x1280, 0x0150] ∧ (∀ frame ∈ frames, frame.Kept) ∧
      after.cpu.sp = 1 ∧ ∀ address, ¬ Below 1 4 address → after.bus.read address = 0 := by
  let handler := (straddling.apply (.interrupt 0x0150 0 0x40)).2
  let inside := (handler.apply (.execute (.push .af) 0x40 1)).2
  let left := (inside.apply (.execute (.pop .bc) 0x41 1)).2
  have entered : Pushes straddling.cpu (.interrupt 0x0150 0 0x40) 0x0150 :=
    .interrupt 0x0150 0 0x40 rfl
  have moved : Pops inside.cpu (.execute (.pop .bc) 0x41 1) := .register 0x41 1 (by decide)
  have returned : Pops left.cpu (.execute .retInterrupt 0x42 1) := .retInterrupt 0x42 1
  have nested := Nested.frame entered
    (.frame (.register .af 0x40 1) (.nil inside) moved (.nil left)) returned (.nil _)
  obtain ⟨kept, sp, spared⟩ := nested_stack_kept nested (by decide)
  refine ⟨_, _, nested, by decide, rfl, kept, sp, fun address outside => ?_⟩
  rw [spared address outside]
  exact Memory.read_zero address

end Sm83
