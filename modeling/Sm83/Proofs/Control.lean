import Sm83.Proofs.ProgramCounter

set_option autoImplicit false

namespace Sm83

namespace Instruction

variable {instruction : Instruction} {status : Status}

theorem eq_halt_of_settleStatus (before : status.halted = false)
    (after : (instruction.settleStatus status).halted = true) : instruction = .halt := by
  cases instruction with
  | halt => rfl
  | _ => cases before.symm.trans after

theorem enables_of_settleStatus (before : status.interruptsEnabled = false)
    (after : (instruction.settleStatus status).interruptsEnabled = true) :
    instruction = .setInterrupts true ∨ instruction = .retInterrupt := by
  cases instruction with
  | setInterrupts enabled => exact .inl (congrArg setInterrupts after)
  | retInterrupt => exact .inr rfl
  | _ => cases before.symm.trans after

theorem disables_of_settleStatus (before : status.interruptsEnabled = true)
    (after : (instruction.settleStatus status).interruptsEnabled = false) :
    instruction = .setInterrupts false := by
  cases instruction with
  | setInterrupts enabled => exact congrArg setInterrupts after
  | retInterrupt => cases after
  | _ => cases before.symm.trans after

end Instruction

structure Entry.Controlled (opcode : UInt8) (entry : Entry) : Prop where
  halt : entry.instruction = .halt → opcode = 0x76
  idle : entry.instruction = .halt → ∀ taken, entry.cost taken = 1
  enable : entry.instruction = .setInterrupts true → opcode = 0xfb
  disable : entry.instruction = .setInterrupts false → opcode = 0xf3
  ret : entry.instruction = .retInterrupt → opcode = 0xd9

instance (opcode : UInt8) (entry : Entry) : Decidable (entry.Controlled opcode) :=
  decidable_of_iff
    ((entry.instruction = .halt → opcode = 0x76) ∧
      (entry.instruction = .halt → ∀ taken, entry.cost taken = 1) ∧
      (entry.instruction = .setInterrupts true → opcode = 0xfb) ∧
      (entry.instruction = .setInterrupts false → opcode = 0xf3) ∧
      (entry.instruction = .retInterrupt → opcode = 0xd9))
    ⟨fun ⟨halt, idle, enable, disable, ret⟩ => ⟨halt, idle, enable, disable, ret⟩,
      fun ⟨halt, idle, enable, disable, ret⟩ => ⟨halt, idle, enable, disable, ret⟩⟩

theorem Encodes.controlled {opcode : UInt8} {rest : List UInt8} {entry : Entry}
    (encodes : Encodes (opcode :: rest) entry) : entry.Controlled opcode :=
  encodes.of_table (fun opcode entry => entry.Controlled opcode) (by decide +kernel)
    (by decide +kernel)

inductive Move where
  | step (pc : UInt16)
  | interrupt (pc vector : UInt16)
  deriving DecidableEq, Repr

namespace Machine

variable {β : Type} [Bus β] {machine after : Machine β} {pc : UInt16} {budget : Int}
  {stepped : Stepped}

-- How many cycles are left makes no difference to the machine.
def move (machine : Machine β) : Move → Machine β
  | .step pc => (machine.step pc).2
  | .interrupt pc vector => (machine.apply (.interrupt pc 0 vector)).2

def follow (machine : Machine β) (moves : List Move) : Machine β :=
  moves.foldl move machine

def runMoves (machine : Machine β) (pc : UInt16) (budget : Int) : List Move :=
  if 0 < budget then
    .step pc :: match machine.step pc with
      | (.ok stepped, after) => after.runMoves stepped.next (budget - stepped.cost)
      | (.error _, _) => []
  else []
termination_by budget.toNat
decreasing_by
  have := stepped.cost_pos
  omega

def callMoves (machine : Machine β) (pc : UInt16) : Call → List Move
  | .step _ => [.step pc]
  | .run budget => machine.runMoves pc budget
  | .interrupt _ vector => [.interrupt pc vector]

def moves (machine : Machine β) : List (UInt16 × Call) → List Move
  | [] => []
  | (pc, call) :: rest =>
    machine.callMoves pc call ++ (machine.apply (call.command pc)).2.moves rest

theorem follow_append (machine : Machine β) (first second : List Move) :
    machine.follow (first ++ second) = (machine.follow first).follow second :=
  List.foldl_append

theorem follow_runMoves (machine : Machine β) (pc : UInt16) (budget : Int) :
    machine.follow (machine.runMoves pc budget) = (machine.run pc budget).2 := by
  induction machine, pc, budget using run_induction with
  | spent machine pc budget spent =>
    rw [runMoves, if_neg (by omega), run_of_nonpos _ _ spent]
    rfl
  | stepped machine pc budget positive ih =>
    rw [runMoves, if_pos positive, run_of_pos _ _ positive, follow, List.foldl_cons, move]
    match step : machine.step pc with
    | (.ok stepped, after) => exact ih stepped after step
    | (.error fault, stopped) => rfl

theorem follow_callMoves (machine : Machine β) (pc : UInt16) (call : Call) :
    machine.follow (machine.callMoves pc call) = (machine.apply (call.command pc)).2 := by
  cases call with
  | step cycles => rfl
  | run budget => exact machine.follow_runMoves pc budget
  | interrupt cycles vector =>
    rw [callMoves, follow, List.foldl_cons, move, Call.command]
    cases enabled : machine.cpu.interruptsEnabled with
    | true =>
      rw [apply_interrupt_of_enabled machine enabled, apply_interrupt_of_enabled machine enabled]
      rfl
    | false =>
      rw [apply_interrupt_of_disabled machine enabled, apply_interrupt_of_disabled machine enabled]
      rfl

theorem follow_moves (machine : Machine β) (calls : List (UInt16 × Call)) :
    machine.follow (machine.moves calls) =
      (machine.applyAll (calls.map fun (pc, call) => call.command pc)).2 := by
  induction calls generalizing machine with
  | nil => rfl
  | cons call rest ih =>
    obtain ⟨pc, call⟩ := call
    rw [moves, follow_append, follow_callMoves, ih]
    rfl

def Fetches (machine : Machine β) (move : Move) (opcode : UInt8) : Prop :=
  ∃ pc, move = .step pc ∧ machine.cpu.halted = false ∧ (Bus.read machine.bus pc).1 = opcode

structure Disciplined (machine : Machine β) (move : Move) : Prop where
  halts : machine.cpu.halted = false → (machine.move move).cpu.halted = true →
    machine.Fetches move 0x76
  resumes : machine.cpu.halted = true → (machine.move move).cpu.halted = false →
    ∃ pc vector, move = .interrupt pc vector
  enables : machine.cpu.interruptsEnabled = false →
    (machine.move move).cpu.interruptsEnabled = true →
    machine.Fetches move 0xfb ∨ machine.Fetches move 0xd9
  disables : machine.cpu.interruptsEnabled = true →
    (machine.move move).cpu.interruptsEnabled = false →
    machine.Fetches move 0xf3 ∨ ∃ pc vector, move = .interrupt pc vector

theorem opcode_of_stepAccesses {opcode : UInt8} {rest : List Access}
    (running : machine.cpu.halted = false)
    (accesses : machine.stepAccesses pc = .read pc opcode :: rest) :
    opcode = (Bus.read machine.bus pc).1 := by
  simp only [stepAccesses, Cpu.step, running, fetchEntry, Microcode.readByte, Bool.false_eq_true,
    if_false, Microcode.bind_eq, Microcode.read_bind, Microcode.trace, List.cons.injEq,
    Access.read.injEq, true_and] at accesses
  exact accesses.1.symm

theorem controlled_of_step_ok (running : machine.cpu.halted = false)
    (step : machine.step pc = (.ok stepped, after)) :
    ∃ entry : Entry, entry.Controlled (Bus.read machine.bus pc).1 ∧
      (∃ taken, stepped.cost = entry.cost taken) ∧
      after.cpu.status =
        { entry.instruction.settleStatus machine.cpu.status with pc := stepped.next } := by
  obtain ⟨opcodes, entry, rest, encodes, accesses, cost, status⟩ := settles_of_step_ok running step
  cases opcodes with
  | nil => cases encodes
  | cons opcode others =>
    have controlled := encodes.controlled
    rw [opcode_of_stepAccesses running accesses] at controlled
    exact ⟨entry, controlled, cost, status⟩

theorem disciplined_of_unchanged {move : Move}
    (halted : (machine.move move).cpu.halted = machine.cpu.halted)
    (enabled : (machine.move move).cpu.interruptsEnabled = machine.cpu.interruptsEnabled) :
    machine.Disciplined move where
  halts before after := by rw [halted, before] at after; cases after
  resumes before after := by rw [halted, before] at after; cases after
  enables before after := by rw [enabled, before] at after; cases after
  disables before after := by rw [enabled, before] at after; cases after

theorem disciplined_interrupt (machine : Machine β) (pc vector : UInt16) :
    machine.Disciplined (.interrupt pc vector) := by
  have cleared : (machine.move (.interrupt pc vector)).cpu.halted = false ∧
      (machine.move (.interrupt pc vector)).cpu.interruptsEnabled = false := by
    rw [move]
    cases enabled : machine.cpu.interruptsEnabled with
    | true =>
      rw [apply_interrupt_of_enabled machine enabled]
      exact ⟨rfl, rfl⟩
    | false =>
      rw [apply_interrupt_of_disabled machine enabled]
      exact ⟨rfl, enabled⟩
  obtain ⟨running, disabled⟩ := cleared
  constructor
  case halts => exact fun _ halted => Bool.noConfusion (running.symm.trans halted)
  case resumes => exact fun _ _ => ⟨pc, vector, rfl⟩
  case enables => exact fun _ enabled => Bool.noConfusion (disabled.symm.trans enabled)
  case disables => exact fun _ _ => .inr ⟨pc, vector, rfl⟩

theorem disciplined_step (machine : Machine β) (pc : UInt16) :
    machine.Disciplined (.step pc) := by
  match step : machine.step pc with
  | (.error fault, stopped) =>
    have same := (perform_of_step_error step).2
    apply disciplined_of_unchanged <;> rw [move, step, same]
  | (.ok stepped, after) =>
    cases running : machine.cpu.halted with
    | true =>
      rw [step_of_halted machine pc running] at step
      cases step
      apply disciplined_of_unchanged <;> rw [move, step_of_halted machine pc running]
    | false =>
      obtain ⟨entry, controlled, _, status⟩ := controlled_of_step_ok running step
      have reached : machine.move (.step pc) = after := by rw [move, step]
      have halted : after.cpu.halted = _ := congrArg Status.halted status
      have enabled : after.cpu.interruptsEnabled = _ := congrArg Status.interruptsEnabled status
      have fetches {opcode : UInt8} (found : (Bus.read machine.bus pc).1 = opcode) :
          machine.Fetches (.step pc) opcode := ⟨pc, rfl, running, found⟩
      constructor
      case halts =>
        intro _ halts
        rw [reached, halted] at halts
        exact fetches (controlled.halt (Instruction.eq_halt_of_settleStatus running halts))
      case resumes =>
        intro before _
        cases running.symm.trans before
      case enables =>
        intro before enables
        rw [reached, enabled] at enables
        rcases Instruction.enables_of_settleStatus before enables with set | ret
        next => exact .inl (fetches (controlled.enable set))
        next => exact .inr (fetches (controlled.ret ret))
      case disables =>
        intro before disables
        rw [reached, enabled] at disables
        exact .inl (fetches (controlled.disable
          (Instruction.disables_of_settleStatus before disables)))

theorem disciplined (machine : Machine β) (move : Move) : machine.Disciplined move := by
  cases move with
  | step pc => exact machine.disciplined_step pc
  | interrupt pc vector => exact machine.disciplined_interrupt pc vector

-- Halting takes one cycle, and so does each cycle of it.
theorem cost_of_halted_step_ok (step : machine.step pc = (.ok stepped, after))
    (halted : after.cpu.halted = true) : stepped.cost = 1 := by
  cases running : machine.cpu.halted with
  | true =>
    rw [step_of_halted machine pc running] at step
    cases step
    rfl
  | false =>
    obtain ⟨entry, controlled, ⟨taken, cost⟩, status⟩ := controlled_of_step_ok running step
    have settled : after.cpu.halted = _ := congrArg Status.halted status
    rw [settled] at halted
    rw [cost]
    exact controlled.idle (Instruction.eq_halt_of_settleStatus running halted) taken

theorem cycles_of_run_halted {progress : Progress} (positive : 0 < budget)
    (ran : machine.run pc budget = (.ok progress, after)) (halted : after.cpu.halted = true) :
    progress.cycles = 0 := by
  induction machine, pc, budget using run_induction with
  | spent machine pc budget spent => omega
  | stepped machine pc budget positive ih =>
    match step : machine.step pc with
    | (.error fault, stopped) =>
      rw [run_of_pos _ _ positive, step] at ran
      cases ran
    | (.ok stepped, middle) =>
      rw [run_of_pos _ _ positive, step] at ran
      by_cases more : 0 < budget - stepped.cost
      next => exact ih stepped middle step more ran
      next =>
        -- The last step has left a halted machine, so it cannot have taken more than was left.
        simp only [run_of_nonpos _ _ (Int.not_lt.mp more)] at ran
        cases ran
        have single := cost_of_halted_step_ok step halted
        simp only
        omega

/-- A run between whose instructions there come interrupts that are not taken, also before the first
one and after the last. -/
inductive Disturbed : Machine β → UInt16 → Int → Except Fault Progress → Machine β → Prop where
  | spent {machine : Machine β} {pc : UInt16} {budget : Int} (spent : budget ≤ 0) :
      Disturbed machine pc budget (.ok ⟨pc, budget⟩) machine
  | step {machine middle after : Machine β} {pc : UInt16} {budget : Int} {stepped : Stepped}
      {result : Except Fault Progress} (positive : 0 < budget)
      (step : machine.step pc = (.ok stepped, middle))
      (rest : Disturbed middle stepped.next (budget - stepped.cost) result after) :
      Disturbed machine pc budget result after
  | fail {machine stopped : Machine β} {pc : UInt16} {budget : Int} {fault : Fault}
      (positive : 0 < budget) (step : machine.step pc = (.error fault, stopped)) :
      Disturbed machine pc budget (.error fault) stopped
  | ignore {machine middle after : Machine β} {pc : UInt16} {budget : Int} {progress : Progress}
      {result : Except Fault Progress} (vector : UInt16)
      (disabled : machine.cpu.interruptsEnabled = false) (running : machine.cpu.halted = false)
      (interrupt : machine.apply (.interrupt pc budget vector) = (.ok (.progress progress), middle))
      (rest : Disturbed middle progress.pc progress.cycles result after) :
      Disturbed machine pc budget result after

-- Undisturbed, it is a run all the same.
theorem disturbed_run (machine : Machine β) (pc : UInt16) (budget : Int) :
    Disturbed machine pc budget (machine.run pc budget).1 (machine.run pc budget).2 := by
  induction machine, pc, budget using run_induction with
  | spent machine pc budget spent =>
    rw [run_of_nonpos _ _ spent]
    exact .spent spent
  | stepped machine pc budget positive ih =>
    rw [run_of_pos _ _ positive]
    match step : machine.step pc with
    | (.ok stepped, middle) => exact .step positive step (ih stepped middle step)
    | (.error fault, stopped) => exact .fail positive step

theorem Disturbed.exists_run {result : Except Fault Progress}
    (disturbed : Disturbed machine pc budget result after) :
    ∃ plain, machine.run pc budget = (result, plain) ∧ Matches plain after := by
  induction disturbed with
  | spent spent => exact ⟨_, run_of_nonpos _ _ spent, rfl, rfl⟩
  | step positive step rest ih =>
    obtain ⟨plain, ran, same⟩ := ih
    exact ⟨plain, by rw [run_of_pos _ _ positive, step, ← ran], same⟩
  | fail positive step => exact ⟨_, by rw [run_of_pos _ _ positive, step], rfl, rfl⟩
  | @ignore machine middle _ pc budget _ _ vector disabled running interrupt _ ih =>
    obtain ⟨plain, ran, same⟩ := ih
    simp only [apply_interrupt_of_disabled machine disabled, Prod.mk.injEq, Except.ok.injEq,
      Reply.progress.injEq] at interrupt
    obtain ⟨rfl, stays⟩ := interrupt
    -- All that the interrupt has changed is the log.
    have start : Matches machine middle := ⟨by rw [← stays, ← running], by rw [← stays]⟩
    obtain ⟨results, ends⟩ := performsAlike_matches.steps.run start pc budget
    rw [ran] at results ends
    exact ⟨(machine.run pc budget).2, Prod.ext results rfl, ends.cpu.trans same.cpu,
      ends.bus.trans same.bus⟩

theorem apply_step_of_halted (halted : machine.cpu.halted = true) (pc : UInt16) (cycles : Int) :
    machine.apply (.step pc cycles) = (.ok (.progress ⟨pc, cycles - 1⟩), machine.withPc pc) := by
  rw [apply, step_of_halted machine pc halted]
  rfl

def dozing : Machine Memory where
  bus := (Memory.zero.write 0 0xfb).write 1 0x76

theorem run_dozing : ∃ after, dozing.run 0 4 = (.ok ⟨2, 0⟩, after) ∧ after.cpu.halted = true := by
  have enable : decode 0xfb = some ⟨.setInterrupts true, 1, 1, 0, by decide⟩ := rfl
  have halt : decode 0x76 = some ⟨.halt, 1, 1, 0, by decide⟩ := rfl
  simp [dozing, run_of_pos, run_of_nonpos, step, Cpu.step, fetchEntry, Cpu.executeEntry,
    Microcode.perform, Microcode.readByte, Microcode.log, Bus.read, Memory.read_write, enable, halt,
    Instruction.execute, Executed.proceed, Entry.cost]

def sleeping : Machine Memory where
  cpu := { halted := true }
  bus := .zero

end Machine

end Sm83
