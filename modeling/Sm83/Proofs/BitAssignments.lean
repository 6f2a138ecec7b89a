import Sm83.Proofs.LastGiven
import Sm83.Proofs.NamedBytes

set_option autoImplicit false

namespace Sm83

inductive BitOperation where
  | assign (value : Bool) (index : Fin 8)
  | test (index : Fin 8)
  deriving DecidableEq, Repr

namespace BitOperation

def instruction (digit : Fin 8) : BitOperation → Instruction
  | assign value index => .assignBit value index (Opcode.operand digit)
  | test index => .testBit index (Opcode.operand digit)

def assigned (index : Fin 8) : BitOperation → Option Bool
  | assign value place => if place = index then some value else none
  | test _ => none

def result (b : UInt8) : BitOperation → UInt8
  | assign value index => setBit b index value
  | test _ => b

def flags (b : UInt8) (flags : Flags) : BitOperation → Flags
  | assign _ _ => flags
  | test index => { flags with zero := !bit b index }

def lastAssigned (index : Fin 8) (operations : List BitOperation) : Option Bool :=
  (operations.filterMap (assigned index)).getLast?

theorem bit_result (operation : BitOperation) (b : UInt8) (index : Fin 8) :
    bit (operation.result b) index = (operation.assigned index).getD (bit b index) := by
  cases operation with
  | assign value place =>
    by_cases same : index = place <;> simp [result, assigned, bit_setBit, same, eq_comm]
  | test place => rfl

end BitOperation

namespace Machine

section Named

variable (machine : Machine Memory) (digit : Fin 8)

def bitwise (operation : BitOperation) : Machine Memory :=
  let b := machine.named digit
  machine.withNamed digit (operation.result b) (operation.flags b machine.cpu.flags)

theorem perform_bitwise (operation : BitOperation) (pc length : UInt16) (log : Log) :
    ((operation.instruction digit).execute machine.cpu pc length).perform machine.bus log =
      ⟨.ok ⟨(machine.bitwise digit operation).cpu, pc + length, false⟩,
        (machine.bitwise digit operation).bus, log⟩ := by
  cases operation with
  | assign value index =>
    simp only [BitOperation.instruction, Instruction.execute, Executed.proceed, Microcode.bind_eq,
      Microcode.bind_assoc, Microcode.perform_bind, perform_fetch_operand,
      Deposit.perform_store_operand, bitwise, BitOperation.result, BitOperation.flags,
      withNamed_flags]
    rfl
  | test index =>
    simp only [BitOperation.instruction, Instruction.execute, Executed.proceed, Microcode.bind_eq,
      Microcode.bind_assoc, Microcode.perform_bind, perform_fetch_operand, bitwise,
      BitOperation.result, withNamed_named]
    rfl

theorem apply_bitwise (operation : BitOperation) (pc length : UInt16) :
    machine.apply (.execute (operation.instruction digit) pc length) =
      (.ok (.executed (pc + length) false), machine.bitwise digit operation) := by
  rw [apply_execute, perform_bitwise]
  rfl

theorem after_bitwise (operation : BitOperation) :
    machine.after (operation.instruction digit) = machine.bitwise digit operation :=
  congrArg Prod.snd (machine.apply_bitwise digit operation 0 0)

end Named

end Machine

theorem Instruction.straight_bitwise (digit : Fin 8) (operations : List BitOperation) :
    ∀ instruction ∈ operations.map (·.instruction digit), instruction.Straight := by
  intro instruction member machine pc length
  obtain ⟨operation, -, rfl⟩ := List.mem_map.mp member
  rw [machine.apply_bitwise, machine.after_bitwise]

namespace Machine

section BitwiseAll

variable (machine : Machine Memory) (digit : Fin 8)

def bitwiseAll (operations : List BitOperation) : Machine Memory :=
  operations.foldl (fun machine operation => machine.bitwise digit operation) machine

theorem bitwiseAll_append (first second : List BitOperation) :
    machine.bitwiseAll digit (first ++ second) =
      (machine.bitwiseAll digit first).bitwiseAll digit second := List.foldl_append

theorem snd_applyAll_bitwise (operations : List BitOperation) (pc length : Nat → UInt16) :
    (machine.applyAll
      (Instruction.commands pc length (operations.map (·.instruction digit)))).2 =
      machine.bitwiseAll digit operations :=
  (Instruction.applyAll_operations (fun machine operation => machine.apply_bitwise digit operation)
    machine operations pc length).2

theorem bit_bitwiseAll (operations : List BitOperation) (index : Fin 8) :
    bit ((machine.bitwiseAll digit operations).named digit) index =
      (BitOperation.lastAssigned index operations).getD (bit (machine.named digit) index) := by
  refine view_foldl (fun machine : Machine Memory => bit (machine.named digit) index)
    (fun machine operation => ?_) machine operations
  simp only [bitwise, named_withNamed]
  exact operation.bit_result (machine.named digit) index

theorem bitwiseAll_eq_withNamed (operations : List BitOperation) :
    let final := machine.bitwiseAll digit operations
    final = machine.withNamed digit (final.named digit) final.cpu.flags :=
  foldl_eq_withNamed (fun _ _ => ⟨_, _, rfl⟩) machine operations

theorem carry_bitwiseAll (operations : List BitOperation) :
    (machine.bitwiseAll digit operations).cpu.flags.carry = machine.cpu.flags.carry := by
  induction operations generalizing machine with
  | nil => rfl
  | cons operation rest ih =>
    refine (ih (machine.bitwise digit operation)).trans ?_
    cases operation with
    | assign value index => rfl
    | test index => rfl

theorem flags_bitwiseAll {operations : List BitOperation}
    (untested : ∀ index, .test index ∉ operations) :
    (machine.bitwiseAll digit operations).cpu.flags = machine.cpu.flags := by
  induction operations generalizing machine with
  | nil => rfl
  | cons operation rest ih =>
    have later : ∀ index, .test index ∉ rest := fun index member =>
      untested index (List.mem_cons_of_mem operation member)
    cases operation with
    | assign value index => exact ih (machine.bitwise digit (.assign value index)) later
    | test index => exact absurd List.mem_cons_self (untested index)

-- Only assignments follow the last test, so they leave what it has shown.
theorem zero_bitwiseAll (before : List BitOperation) (index : Fin 8) {later : List BitOperation}
    (untested : ∀ other, .test other ∉ later) :
    (machine.bitwiseAll digit (before ++ .test index :: later)).cpu.flags.zero =
      !bit ((machine.bitwiseAll digit before).named digit) index := by
  let tested := (machine.bitwiseAll digit before).bitwise digit (.test index)
  have kept : (tested.bitwiseAll digit later).cpu.flags = tested.cpu.flags :=
    tested.flags_bitwiseAll digit untested
  rw [bitwiseAll_append]
  exact congrArg Flags.zero kept

end BitwiseAll

theorem exists_apply_step_bitwise {machine : Machine Memory} {digit : Fin 8} {pc : UInt16}
    {operation : BitOperation} (running : machine.cpu.halted = false)
    (extended : machine.bus.read pc = 0xcb)
    (selects : (decodeExtended (machine.bus.read (pc + 1))).instruction =
      operation.instruction digit) (cycles : Int) :
    let after := machine.bitwise digit operation
    ∃ (log : Log) (cost : Nat), machine.apply (.step pc cycles) =
      (.ok (.progress ⟨pc + 2, cycles - cost⟩),
        ⟨{ after.cpu with pc := pc + 2 }, after.bus, log⟩) :=
  exists_apply_step_proceeding running extended selects
    (machine.perform_bitwise digit operation pc 2) cycles

/-- Whatever bits of a byte are assigned and tested, and in whatever order, each bit ends as what
was assigned to it last, or as it was. A test shows its bit, as it then is, in the zero flag;
nothing else shows there, and nothing but the byte and that flag changes. -/
theorem bits_last_assigned (machine : Machine Memory) (digit : Fin 8)
    (operations : List BitOperation) (pc length : Nat → UInt16) :
    let ran := machine.applyAll
      (Instruction.commands pc length (operations.map (·.instruction digit)))
    let final := ran.2
    let assigned (operations : List BitOperation) (index : Fin 8) : Bool :=
      (BitOperation.lastAssigned index operations).getD (bit (machine.named digit) index)
    (∀ reply ∈ ran.1, ∃ next, reply = .ok (.executed next false)) ∧
      (∀ index, bit (final.named digit) index = assigned operations index) ∧
      final = machine.withNamed digit (final.named digit) final.cpu.flags ∧
      final.cpu.flags.carry = machine.cpu.flags.carry ∧
      ((∀ index, .test index ∉ operations) →
        final.cpu.flags.zero = machine.cpu.flags.zero) ∧
      (∀ before index later, operations = before ++ .test index :: later →
        (∀ other, .test other ∉ later) → final.cpu.flags.zero = !assigned before index) ∧
      (∀ (index : Fin 8) (place size : UInt16),
        let flags := { final.cpu.flags with zero := !assigned operations index }
        final.apply (.execute (.testBit index (Opcode.operand digit)) place size) =
          (.ok (.executed (place + size) false),
            { final with cpu := { final.cpu with flags } })) ∧
      ∀ (operation : BitOperation) (place : UInt16) (cycles : Int),
        machine.cpu.halted = false → machine.bus.read place = 0xcb →
        (decodeExtended (machine.bus.read (place + 1))).instruction =
          operation.instruction digit →
        let executed := (machine.apply (.execute (operation.instruction digit) place 2)).2
        ∃ (log : Log) (cost : Nat), machine.apply (.step place cycles) =
          (.ok (.progress ⟨place + 2, cycles - cost⟩),
            ⟨{ executed.cpu with pc := place + 2 }, executed.bus, log⟩) := by
  intro ran final assigned
  have finals : final = machine.bitwiseAll digit operations :=
    machine.snd_applyAll_bitwise digit operations pc length
  have bits (operations : List BitOperation) (index : Fin 8) :
      bit ((machine.bitwiseAll digit operations).named digit) index = assigned operations index :=
    machine.bit_bitwiseAll digit operations index
  refine ⟨?_, ?_, ?_, ?_, ?_, ?_, ?_, ?_⟩
  next =>
    exact Instruction.proceeds_commands (Instruction.straight_bitwise digit operations) machine pc
      length
  next => simpa only [finals] using bits operations
  next => simpa only [finals] using machine.bitwiseAll_eq_withNamed digit operations
  next => simpa only [finals] using machine.carry_bitwiseAll digit operations
  next =>
    intro untested
    rw [finals, machine.flags_bitwiseAll digit untested]
  next =>
    intro before index later split untested
    rw [finals, split, machine.zero_bitwiseAll digit before index untested, bits]
  next =>
    intro index place size flags
    have shown : bit (final.named digit) index = assigned operations index := by
      rw [finals, bits]
    have tested : final.bitwise digit (.test index) =
        { final with cpu := { final.cpu with flags } } := by
      simp only [flags, ← shown]
      exact final.withNamed_named digit _
    rw [← tested]
    exact final.apply_bitwise digit (.test index) place size
  next =>
    intro operation place cycles running extended selects executed
    have left : executed = machine.bitwise digit operation :=
      congrArg Prod.snd (machine.apply_bitwise digit operation place 2)
    rw [left]
    exact exists_apply_step_bitwise running extended selects cycles

def assigning : Machine Memory where
  cpu := { h := 0xc0, flags := { zero := true, carry := true } }
  bus := ((Memory.zero.write 0xc000 0x42).write 0x0150 0xcb).write 0x0151 0xfe

theorem bits_last_assigned_in_memory :
    let operations : List BitOperation :=
      [.assign true 7, .assign false 6, .test 7, .assign false 7, .assign true 0]
    let final := (assigning.applyAll (Instruction.commands (fun i => 0x0150 + UInt16.ofNat i)
      (fun _ => 2) (operations.map (·.instruction 6)))).2
    let executed := (assigning.apply (.execute (.assignBit true 7 (.indirect .hl)) 0x0150 2)).2
    bit (final.named 6) 7 = false ∧ bit (final.named 6) 6 = false ∧
      bit (final.named 6) 1 = true ∧ bit (final.named 6) 0 = true ∧
      (∀ other, BitOperation.test other ∉ [.assign false 7, .assign true 0]) ∧
      final.cpu.flags.zero = false ∧ final.cpu.flags.carry = true ∧
      assigning.cpu.halted = false ∧ assigning.bus.read 0x0150 = 0xcb ∧
      (decodeExtended (assigning.bus.read (0x0150 + 1))).instruction =
        .assignBit true 7 (.indirect .hl) ∧
      ∃ (log : Log) (cost : Nat), assigning.apply (.step 0x0150 8) =
        (.ok (.progress ⟨0x0152, 8 - cost⟩),
          ⟨{ executed.cpu with pc := 0x0152 }, executed.bus, log⟩) := by
  intro operations final executed
  have byte : assigning.named 6 = 0x42 := by simp [named, assigning, Memory.read_write, word]
  have extended : assigning.bus.read 0x0150 = 0xcb := by simp [assigning, Memory.read_write]
  have selected : assigning.bus.read (0x0150 + 1) = 0xfe := by simp [assigning]
  have selects : (decodeExtended (assigning.bus.read (0x0150 + 1))).instruction =
      (BitOperation.assign true 7).instruction 6 := by rw [selected]; rfl
  obtain ⟨-, bits, -, carry, -, zero, -, steps⟩ := assigning.bits_last_assigned 6 operations
    (fun i => 0x0150 + UInt16.ofNat i) (fun _ => 2)
  simp only [byte] at bits zero
  have untested (other : Fin 8) :
      BitOperation.test other ∉ [.assign false 7, .assign true 0] := by simp
  exact ⟨bits 7, bits 6, bits 1, bits 0, untested,
    zero [.assign true 7, .assign false 6] 7 _ rfl untested, carry, rfl, extended, selects,
    steps _ 0x0150 8 rfl extended selects⟩

end Machine

end Sm83
