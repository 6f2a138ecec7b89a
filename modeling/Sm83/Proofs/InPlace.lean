import Sm83.Machine.Command

set_option autoImplicit false

namespace Sm83

open Microcode hiding perform bind

inductive Breakdown where
  | fault (fault : Fault)
  | noAddress
  deriving DecidableEq, Repr

def InPlace (β α : Type) := Machine β → Except Breakdown α × Machine β

namespace InPlace

variable {β α γ : Type}

def bind (first : InPlace β α) (second : α → InPlace β γ) : InPlace β γ := fun machine =>
  match first machine with
  | (.ok value, machine) => second value machine
  | (.error breakdown, machine) => (.error breakdown, machine)

instance : Monad (InPlace β) where
  pure value := fun machine => (.ok value, machine)
  bind := bind

def breakOff (breakdown : Breakdown) : InPlace β α := fun machine =>
  (.error breakdown, machine)

def cpu : InPlace β Cpu := fun machine => (.ok machine.cpu, machine)

def change (f : Cpu → Cpu) : InPlace β Unit := fun machine =>
  (.ok (), { machine with cpu := f machine.cpu })

def proceed (next : UInt16) (code : InPlace β Unit) : InPlace β (UInt16 × Bool) := do
  code
  return (next, false)

variable [Bus β]

def complete (code : Cpu → Microcode (α × Cpu)) : InPlace β α := fun machine =>
  let (result, machine) := machine.perform code
  (result.mapError .fault, machine)

def consult (code : Cpu → Microcode α) : InPlace β α :=
  complete fun cpu => return (← code cpu, cpu)

def bus (code : Microcode α) : InPlace β α :=
  consult fun _ => code

def replace (code : Cpu → Microcode Cpu) : InPlace β Unit :=
  complete fun cpu => return ((), ← code cpu)

def atOnce (code : Cpu → Microcode Executed) : InPlace β (UInt16 × Bool) :=
  complete fun cpu => do
    let executed ← code cpu
    return ((executed.next, executed.taken), executed.cpu)

theorem atOnce_apply (code : Cpu → Microcode Executed) (machine : Machine β) :
    atOnce code machine =
      match (code machine.cpu).perform machine.bus machine.log with
      | ⟨.ok executed, bus, log⟩ =>
        (.ok (executed.next, executed.taken), ⟨executed.cpu, bus, log⟩)
      | ⟨.error fault, bus, log⟩ => (.error (.fault fault), ⟨machine.cpu, bus, log⟩) := by
  obtain ⟨cpu, bus, log⟩ := machine
  simp only [atOnce, complete, Machine.perform, bind_eq, perform_bind]
  rcases (code cpu).perform bus log with ⟨_ | _, _, _⟩
  next => rfl
  next => rfl

-- After code that leaves the processor alone, a new one may take its place at any time.
theorem consult_bind (first : Cpu → Microcode α) (second : α → Cpu → Microcode (γ × Cpu)) :
    ((consult first : InPlace β α) >>= fun value => complete (second value)) =
      complete fun cpu => first cpu >>= fun value => second value cpu := by
  funext ⟨cpu, bus, log⟩
  simp only [Bind.bind, bind, consult, complete, Machine.perform, perform_bind, pure_eq]
  rcases (first cpu).perform bus log with ⟨_ | _, _, _⟩
  next => rfl
  next => rfl

theorem consult_replace (first : Cpu → Microcode α) (second : α → Cpu → Microcode Cpu) :
    ((consult first : InPlace β α) >>= fun value => replace (second value)) =
      replace fun cpu => first cpu >>= fun value => second value cpu := by
  simp only [replace, consult_bind, bind_eq, bind_assoc]

theorem consult_change (first : Cpu → Microcode α) (f : α → Cpu → Cpu) :
    ((consult first : InPlace β α) >>= fun value => change (f value)) =
      replace fun cpu => first cpu >>= fun value => return f value cpu :=
  consult_replace first fun value cpu => return f value cpu

-- A change cannot fail, so it may as well be made to the processor that is to be put in place.
theorem replace_change (code : Cpu → Microcode Cpu) (f : Cpu → Cpu) :
    ((replace code : InPlace β Unit) >>= fun _ => change f) =
      replace fun cpu => return f (← code cpu) := by
  funext ⟨cpu, bus, log⟩
  simp only [Bind.bind, bind, replace, complete, Machine.perform, perform_bind, pure_eq]
  rcases (code cpu).perform bus log with ⟨_ | _, _, _⟩
  next => rfl
  next => rfl

theorem proceed_replace (next : UInt16) (code : Cpu → Microcode Cpu) :
    proceed next (replace code : InPlace β Unit) =
      atOnce fun cpu => Executed.proceed next (code cpu) := by
  funext ⟨cpu, bus, log⟩
  simp only [proceed, Executed.proceed, Bind.bind, bind, replace, atOnce, complete, Machine.perform,
    perform_bind, pure_eq]
  rcases (code cpu).perform bus log with ⟨_ | _, _, _⟩
  next => rfl
  next => rfl

theorem cpu_eq : (cpu : InPlace β Cpu) = consult fun cpu => return cpu := rfl

end InPlace

namespace ByteOperand

open InPlace

variable {β : Type} [Bus β]

def addressInPlace (pc : UInt16) : ByteOperand → InPlace β (Option UInt16)
  | immediate | register _ => return none
  | absolute => return some (← bus (readWord (pc + 1)))
  | indirect r => return some ((← cpu).getWord r)
  | highPage r => return some (highPageAddress ((← cpu).getByte r))
  | highPageImmediate => return some (highPageAddress (← bus (readByte (pc + 1))))

def fetchInPlace (operand : ByteOperand) (pc : UInt16) : InPlace β UInt8 :=
  match operand with
  | immediate => bus (readByte (pc + 1))
  | register r => return (← cpu).getByte r
  | operand => do
    match ← operand.addressInPlace pc with
    | some address => bus (readByte address)
    | none => breakOff .noAddress

def storeInPlace (operand : ByteOperand) (pc : UInt16) (value : UInt8) : InPlace β Unit :=
  match operand with
  | immediate => breakOff (.fault .immediateWrite)
  | register r => change (·.setByte r value)
  | operand => do
    if let some address ← operand.addressInPlace pc then
      bus (writeByte address value)

theorem fetchInPlace_eq (operand : ByteOperand) (pc : UInt16) :
    operand.fetchInPlace (β := β) pc = consult fun cpu => operand.fetch cpu pc := by
  cases operand <;> rfl

theorem storeInPlace_eq (operand : ByteOperand) (pc : UInt16) (value : UInt8) :
    operand.storeInPlace (β := β) pc value = replace fun cpu => operand.store cpu pc value := by
  cases operand <;> rfl

end ByteOperand

namespace WordOperand

open InPlace

variable {β : Type} [Bus β]

def fetchInPlace (pc : UInt16) : WordOperand → InPlace β UInt16
  | immediate => bus (readWord (pc + 1))
  | absolute => do
    let address ← bus (readWord (pc + 1))
    bus (readWord address)
  | register r => return (← cpu).getWord r

def storeInPlace (pc value : UInt16) : WordOperand → InPlace β Unit
  | immediate => breakOff (.fault .immediateWrite)
  | absolute => do
    let address ← bus (readWord (pc + 1))
    bus (writeWord address value)
  | register r => change (·.setWord r value)

theorem fetchInPlace_eq (operand : WordOperand) (pc : UInt16) :
    operand.fetchInPlace (β := β) pc = consult fun cpu => operand.fetch cpu pc := by
  cases operand <;> rfl

theorem storeInPlace_eq (operand : WordOperand) (pc value : UInt16) :
    operand.storeInPlace (β := β) pc value = replace fun cpu => operand.store cpu pc value := by
  cases operand <;> rfl

end WordOperand

namespace Shift

open InPlace

variable {β : Type} [Bus β]

def inPlace (s : Shift) (target : ByteOperand) (pc : UInt16) : InPlace β Unit := do
  let value ← target.fetchInPlace pc
  let (result, carry) := s.apply value (← cpu).flags.carry
  target.storeInPlace pc result
  change (·.noteShift result carry)

theorem inPlace_eq (s : Shift) (target : ByteOperand) (pc : UInt16) :
    s.inPlace (β := β) target pc = replace fun cpu => do
      let value ← target.fetch cpu pc
      let (result, carry) := s.apply value cpu.flags.carry
      let cpu ← target.store cpu pc result
      return cpu.noteShift result carry := by
  simp only [inPlace, ByteOperand.fetchInPlace_eq, ByteOperand.storeInPlace_eq, cpu_eq,
    replace_change, consult_replace, pure_eq, bind_eq, done_bind]

end Shift

namespace Instruction

open InPlace

variable {β : Type} [Bus β]

-- Executes an instruction in place. Only those that fetch or store an operand have something to
-- break off at; the others are done in one go.
def inPlace (instruction : Instruction) (pc length : UInt16) : InPlace β (UInt16 × Bool) :=
  let next := pc + length
  match instruction with
  | load target source => proceed next do
    let value ← source.fetchInPlace pc
    target.storeInPlace pc value
  | loadWord target source => proceed next do
    let value ← source.fetchInPlace pc
    target.storeInPlace pc value
  | loadStepping direction => proceed next do
    let value ← (ByteOperand.indirect .hl).fetchInPlace pc
    change fun cpu => { cpu with a := value }.stepWord direction .hl
  | storeStepping direction => proceed next do
    let value := (← cpu).a
    (ByteOperand.indirect .hl).storeInPlace pc value
    change (·.stepWord direction .hl)
  | operate operation source => proceed next do
    let value ← source.fetchInPlace pc
    change (·.operate operation value)
  | stepByte direction target => proceed next do
    let result := direction.byte (← target.fetchInPlace pc)
    target.storeInPlace pc result
    change (·.noteStep result)
  | rotateAccumulator rotation => proceed next do
    (Shift.rotate rotation).inPlace (.register .a) pc
    change fun cpu => { cpu with flags := { cpu.flags with zero := false } }
  | shift s target => proceed next (s.inPlace target pc)
  | testBit index source => proceed next do
    let value ← source.fetchInPlace pc
    change fun cpu => { cpu with flags := { cpu.flags with zero := !bit value index } }
  | assignBit value index target => proceed next do
    let old ← target.fetchInPlace pc
    target.storeInPlace pc (setBit old index value)
  | instruction => atOnce fun cpu => instruction.execute cpu pc length

theorem inPlace_eq (instruction : Instruction) (pc length : UInt16) :
    instruction.inPlace (β := β) pc length =
      atOnce fun cpu => instruction.execute cpu pc length := by
  cases instruction with
  | load | loadWord | loadStepping | storeStepping | operate | stepByte | testBit | assignBit =>
    simp only [inPlace, ByteOperand.fetchInPlace_eq, ByteOperand.storeInPlace_eq,
      WordOperand.fetchInPlace_eq, WordOperand.storeInPlace_eq, cpu_eq, replace_change,
      consult_change, consult_replace, proceed_replace]
    rfl
  | shift s target =>
    rw [inPlace, Shift.inPlace_eq, proceed_replace]
    rfl
  | rotateAccumulator rotation =>
    simp only [inPlace, Shift.inPlace_eq, replace_change, proceed_replace]
    rfl
  | _ => rfl

end Instruction

namespace InPlace

variable {β α : Type} [Bus β]

def note (event : Cpu → Event) : InPlace β Unit :=
  consult fun cpu => Microcode.log (event cpu)

theorem bus_apply (code : Microcode α) (machine : Machine β) :
    bus code machine =
      match code.perform machine.bus machine.log with
      | ⟨.ok value, bus, log⟩ => (.ok value, ⟨machine.cpu, bus, log⟩)
      | ⟨.error fault, bus, log⟩ => (.error (.fault fault), ⟨machine.cpu, bus, log⟩) := by
  obtain ⟨cpu, bus, log⟩ := machine
  simp only [InPlace.bus, consult, complete, Machine.perform, bind_eq, perform_bind]
  rcases code.perform bus log with ⟨_ | _, _, _⟩
  next => rfl
  next => rfl

def step (pc : UInt16) : InPlace β (UInt16 × Nat) := do
  if (← cpu).halted then
    change fun cpu => { cpu with pc }
    return (pc, 1)
  else
    let entry ← bus (fetchEntry pc)
    let (next, taken) ← entry.instruction.inPlace pc (UInt16.ofNat entry.length)
    change fun cpu => { cpu with pc := next }
    note fun cpu => .executed entry.instruction cpu
    return (next, entry.cost taken)

theorem step_eq (machine : Machine β) (pc : UInt16) :
    step pc machine =
      match machine.step pc with
      | (.ok stepped, after) => (.ok (stepped.next, stepped.cost), after)
      | (.error fault, stopped) => (.error (.fault fault), stopped) := by
  cases running : machine.cpu.halted with
  | true =>
    rw [Machine.step_of_halted machine pc running]
    simp [step, Bind.bind, bind, cpu, change, running, pure]
  | false =>
    obtain ⟨cpu, bus, log⟩ := machine
    have running : cpu.halted = false := running
    simp only [step, Bind.bind, bind, InPlace.cpu, running, Bool.false_eq_true, if_false, bus_apply,
      Machine.step, Cpu.step, perform_bind]
    rcases (fetchEntry pc).perform bus log with ⟨_ | entry, fetched, log⟩
    next => rfl
    next =>
      simp only [Instruction.inPlace_eq, atOnce_apply, Cpu.executeEntry, bind_eq, perform_bind]
      rcases (entry.instruction.execute cpu pc _).perform fetched log with ⟨_ | executed, _, _⟩
      next => rfl
      next => rfl

end InPlace

end Sm83
