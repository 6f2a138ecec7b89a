import Mathlib.Data.Nat.ModEq
import Sm83.Proofs.NamedBytes
import Sm83.Proofs.OpcodeTable

set_option autoImplicit false

namespace Sm83

section Turns

variable {w : Nat}

theorem rotateLeft_rotateLeft (x : BitVec w) (m n : Nat) :
    (x.rotateLeft m).rotateLeft n = x.rotateLeft (m + n) := by
  apply BitVec.eq_of_getElem_eq
  intro i below
  have first := Nat.mod_lt m (Nat.zero_lt_of_lt below)
  have second := Nat.mod_lt n (Nat.zero_lt_of_lt below)
  simp only [BitVec.getElem_rotateLeft, Nat.add_mod_eq_ite]
  split_ifs <;> first | omega | (congr 1; omega)

theorem rotateRight_rotateLeft (x : BitVec w) (n : Nat) : (x.rotateLeft n).rotateRight n = x := by
  apply BitVec.eq_of_getElem_eq
  intro i below
  have places := Nat.mod_lt n (Nat.zero_lt_of_lt below)
  simp only [BitVec.getElem_rotateRight, BitVec.getElem_rotateLeft]
  split_ifs <;> first | omega | (congr 1; omega)

theorem rotateLeft_rotateRight (x : BitVec w) (n : Nat) : (x.rotateRight n).rotateLeft n = x := by
  apply BitVec.eq_of_getElem_eq
  intro i below
  have places := Nat.mod_lt n (Nat.zero_lt_of_lt below)
  simp only [BitVec.getElem_rotateRight, BitVec.getElem_rotateLeft]
  split_ifs <;> first | omega | (congr 1; omega)

theorem rotateRight_rotateRight (x : BitVec w) (m n : Nat) :
    (x.rotateRight m).rotateRight n = x.rotateRight (m + n) := by
  let there := (x.rotateRight m).rotateRight n
  have back : there.rotateLeft (m + n) = x := by
    rw [Nat.add_comm, ← rotateLeft_rotateLeft, rotateLeft_rotateRight, rotateLeft_rotateRight]
  calc there = (there.rotateLeft (m + n)).rotateRight (m + n) := (rotateRight_rotateLeft ..).symm
    _ = x.rotateRight (m + n) := by rw [back]

end Turns

namespace Rotation

variable {w : Nat}

def turn : Rotation → BitVec w → Nat → BitVec w
  | .left | .leftCircular => BitVec.rotateLeft
  | .right | .rightCircular => BitVec.rotateRight

def opposite : Rotation → Rotation
  | .left => .right
  | .right => .left
  | .leftCircular => .rightCircular
  | .rightCircular => .leftCircular

theorem turn_turn (rotation : Rotation) (x : BitVec w) (m n : Nat) :
    rotation.turn (rotation.turn x m) n = rotation.turn x (m + n) := by
  cases rotation with
  | left | leftCircular => exact rotateLeft_rotateLeft x m n
  | right | rightCircular => exact rotateRight_rotateRight x m n

theorem turn_opposite (rotation : Rotation) (x : BitVec w) (n : Nat) :
    rotation.opposite.turn (rotation.turn x n) n = x := by
  cases rotation with
  | left | leftCircular => exact rotateRight_rotateLeft x n
  | right | rightCircular => exact rotateLeft_rotateRight x n

theorem turn_mod (rotation : Rotation) (x : BitVec w) (n : Nat) :
    rotation.turn x (n % w) = rotation.turn x n := by
  cases rotation with
  | left | leftCircular => exact BitVec.rotateLeft_mod_eq_rotateLeft
  | right | rightCircular => exact BitVec.rotateRight_mod_eq_rotateRight

theorem turn_zero (rotation : Rotation) (x : BitVec w) : rotation.turn x 0 = x := by
  have none := rotation.turn_opposite (rotation.turn x 0) 0
  rw [turn_turn, Nat.add_zero, turn_opposite] at none
  exact none.symm

def ThroughCarry (rotation : Rotation) : Prop :=
  rotation = .left ∨ rotation = .right

theorem throughCarry_opposite (rotation : Rotation) :
    rotation.opposite.ThroughCarry ↔ rotation.ThroughCarry := by
  cases rotation <;> simp [ThroughCarry, opposite]

theorem ring_apply {rotation : Rotation} (through : rotation.ThroughCarry) (b : UInt8)
    (carry : Bool) :
    BitVec.cons (rotation.apply b carry).2 (rotation.apply b carry).1.toBitVec =
      rotation.turn (BitVec.cons carry b.toBitVec) 1 := by
  revert carry b
  rcases through with rfl | rfl
  next => exact forall_opcode (by decide +kernel)
  next => exact forall_opcode (by decide +kernel)

theorem apply_circular {rotation : Rotation} (around : ¬ rotation.ThroughCarry) (b : UInt8)
    (carry : Bool) :
    (rotation.apply b carry).1.toBitVec = rotation.turn b.toBitVec 1 := by
  revert carry b
  cases rotation with
  | leftCircular => exact forall_opcode (by decide +kernel)
  | rightCircular => exact forall_opcode (by decide +kernel)
  | left => exact absurd (.inl rfl) around
  | right => exact absurd (.inr rfl) around

theorem carry_leftCircular (b : UInt8) (carry : Bool) :
    (leftCircular.apply b carry).2 = bit (leftCircular.apply b carry).1 0 := by
  revert carry b
  exact forall_opcode (by decide +kernel)

theorem carry_rightCircular (b : UInt8) (carry : Bool) :
    (rightCircular.apply b carry).2 = bit (rightCircular.apply b carry).1 7 := by
  revert carry b
  exact forall_opcode (by decide +kernel)

end Rotation

theorem Shift.swap_apply (b : UInt8) (carry : Bool) :
    (swap.apply b carry).1.toBitVec = Rotation.leftCircular.turn b.toBitVec 4 := by
  revert carry b
  exact forall_opcode (by decide +kernel)

namespace Instruction

def onByte (digit : Fin 8) (shifts : List Shift) : List Instruction :=
  shifts.map (shift · (Opcode.operand digit))

theorem straight_onByte (digit : Fin 8) (shifts : List Shift) :
    ∀ instruction ∈ onByte digit shifts, instruction.Straight := by
  simp only [onByte, List.mem_map]
  rintro instruction ⟨s, -, rfl⟩
  exact straight_shift digit s

end Instruction

namespace Machine

def shiftedAll (machine : Machine Memory) (digit : Fin 8) (shifts : List Shift) : Machine Memory :=
  shifts.foldl (fun machine s => machine.shifted digit s) machine

def ring (machine : Machine Memory) (digit : Fin 8) : BitVec 9 :=
  .cons machine.cpu.flags.carry (machine.named digit).toBitVec

section ShiftedAll

variable (machine : Machine Memory) (digit : Fin 8)

theorem shiftedAll_append (first second : List Shift) :
    machine.shiftedAll digit (first ++ second) =
      (machine.shiftedAll digit first).shiftedAll digit second := List.foldl_append

theorem shiftedAll_snoc (before : List Shift) (s : Shift) :
    machine.shiftedAll digit (before ++ [s]) =
      (machine.shiftedAll digit before).shifted digit s := shiftedAll_append ..

theorem shiftedAll_eq_withNamed (shifts : List Shift) :
    let final := machine.shiftedAll digit shifts
    final = machine.withNamed digit (final.named digit) final.cpu.flags :=
  foldl_eq_withNamed (fun _ _ => ⟨_, _, rfl⟩) machine shifts

theorem zero_shiftedAll {shifts : List Shift} (some : shifts ≠ []) :
    let final := machine.shiftedAll digit shifts
    final.cpu.flags.zero = decide (final.named digit = 0) := by
  obtain ⟨before, s, rfl⟩ : ∃ before s, shifts = before ++ [s] :=
    ⟨_, _, (List.dropLast_concat_getLast some).symm⟩
  simp only [shiftedAll_snoc, named_shifted]
  rfl

theorem snd_applyAll_onByte (shifts : List Shift) (pc length : Nat → UInt16) :
    (machine.applyAll (Instruction.commands pc length (Instruction.onByte digit shifts))).2 =
      machine.shiftedAll digit shifts :=
  (Instruction.applyAll_operations (fun machine s => machine.apply_shift digit s) machine shifts pc
    length).2

end ShiftedAll

variable {rotation : Rotation}

theorem view_replicate {w : Nat} {digit : Fin 8} (view : Machine Memory → BitVec w)
    (turns : ∀ machine : Machine Memory,
      view (machine.shifted digit (.rotate rotation)) = rotation.turn (view machine) 1)
    (machine : Machine Memory) (count : Nat) :
    view (machine.shiftedAll digit (List.replicate count (.rotate rotation))) =
      rotation.turn (view machine) count := by
  induction count generalizing machine with
  | zero => exact (rotation.turn_zero _).symm
  | succ count ih =>
    have later := ih (machine.shifted digit (.rotate rotation))
    rw [turns, Rotation.turn_turn, Nat.add_comm] at later
    exact later

section Repeated

variable (machine : Machine Memory) (digit : Fin 8) (count : Nat)

theorem ring_replicate (through : rotation.ThroughCarry) :
    (machine.shiftedAll digit (List.replicate count (.rotate rotation))).ring digit =
      rotation.turn (machine.ring digit) count := by
  refine view_replicate (fun machine => machine.ring digit) (fun machine => ?_) machine count
  simp only [ring, carry_shifted, named_shifted]
  exact Rotation.ring_apply through _ _

theorem named_replicate (around : ¬ rotation.ThroughCarry) :
    ((machine.shiftedAll digit (List.replicate count (.rotate rotation))).named digit).toBitVec =
      rotation.turn (machine.named digit).toBitVec count := by
  refine view_replicate (fun machine => (machine.named digit).toBitVec) (fun machine => ?_)
    machine count
  simp only [named_shifted]
  exact Rotation.apply_circular around _ _

theorem ring_opposite (through : rotation.ThroughCarry) :
    (machine.shiftedAll digit (List.replicate count (.rotate rotation) ++
      List.replicate count (.rotate rotation.opposite))).ring digit = machine.ring digit := by
  rw [shiftedAll_append, ring_replicate _ _ _ (rotation.throughCarry_opposite.mpr through),
    ring_replicate _ _ _ through, Rotation.turn_opposite]

theorem named_opposite (around : ¬ rotation.ThroughCarry) :
    (machine.shiftedAll digit (List.replicate count (.rotate rotation) ++
      List.replicate count (.rotate rotation.opposite))).named digit = machine.named digit := by
  have returns := mt rotation.throughCarry_opposite.mp around
  rw [← UInt8.toBitVec_inj, shiftedAll_append, named_replicate _ _ _ returns,
    named_replicate _ _ _ around, Rotation.turn_opposite]

end Repeated

theorem carry_replicate {place : Fin 8}
    (copied : ∀ (b : UInt8) (carry : Bool),
      (rotation.apply b carry).2 = bit (rotation.apply b carry).1 place)
    (machine : Machine Memory) (digit : Fin 8) {count : Nat} (repeated : 1 ≤ count) :
    let final := machine.shiftedAll digit (List.replicate count (.rotate rotation))
    final.cpu.flags.carry = bit (final.named digit) place := by
  obtain ⟨before, rfl⟩ : ∃ before, count = before + 1 := ⟨count - 1, by omega⟩
  simp only [List.replicate_succ', shiftedAll_snoc, carry_shifted, named_shifted]
  exact copied _ _

theorem named_swap (machine : Machine Memory) (digit : Fin 8) :
    ((machine.shifted digit .swap).named digit).toBitVec =
      Rotation.leftCircular.turn (machine.named digit).toBitVec 4 := by
  rw [named_shifted]
  exact Shift.swap_apply _ _

theorem named_swap_swap (machine : Machine Memory) (digit : Fin 8) :
    ((machine.shifted digit .swap).shifted digit .swap).named digit = machine.named digit := by
  rw [← UInt8.toBitVec_inj, named_swap, named_swap, Rotation.turn_turn, ← Rotation.turn_mod]
  exact Rotation.turn_zero _ _

theorem apply_rotateAccumulator (machine : Machine Memory) (rotation : Rotation)
    (pc length : UInt16) :
    let plain := machine.apply (.execute (.shift (.rotate rotation) (.register .a)) pc length)
    machine.apply (.execute (.rotateAccumulator rotation) pc length) = (plain.1,
      { plain.2 with
        cpu := { plain.2.cpu with flags := { plain.2.cpu.flags with zero := false } } }) := rfl

theorem exists_apply_step_shift {machine : Machine Memory} {digit : Fin 8} {pc : UInt16} {s : Shift}
    (running : machine.cpu.halted = false) (extended : machine.bus.read pc = 0xcb)
    (selects : (decodeExtended (machine.bus.read (pc + 1))).instruction =
      .shift s (Opcode.operand digit)) (cycles : Int) :
    let shifted := machine.shifted digit s
    ∃ log cost, machine.apply (.step pc cycles) = (.ok (.progress ⟨pc + 2, cycles - cost⟩),
      ⟨{ shifted.cpu with pc := pc + 2 }, shifted.bus, log⟩) := by
  obtain ⟨log, cost, stepped⟩ := exists_apply_step_proceeding running extended selects
    (machine.perform_shift digit s pc 2) cycles
  exact ⟨log, cost, stepped⟩

theorem exists_apply_step_rotateAccumulator {machine : Machine Memory} {pc : UInt16}
    {rotation : Rotation} (running : machine.cpu.halted = false)
    (known : decode (machine.bus.read pc) = some (.fixed (.rotateAccumulator rotation) 1))
    (cycles : Int) :
    let rotated := (machine.apply (.execute (.rotateAccumulator rotation) pc 1)).2
    ∃ log, machine.apply (.step pc cycles) = (.ok (.progress ⟨pc + 1, cycles - 1⟩),
      ⟨{ rotated.cpu with pc := pc + 1 }, rotated.bus, log⟩) :=
  exists_apply_step running known rfl (fun _ => rfl) rfl cycles

/-- Rotations through the carry turn nine bits. The others turn eight, and the bit that has gone
around last is in the carry. What a rotation does, the one to the other side undoes. To swap the
halves of a byte is to turn it by four places. Whatever the shifts are, they change the byte that
the digit names and the flags, and zero is set when nothing is left of the byte. -/
theorem rotations_go_around (machine : Machine Memory) (digit : Fin 8) {count : Nat}
    (repeated : 1 ≤ count) (pc length : Nat → UInt16) :
    let ran (shifts : List Shift) :=
      machine.applyAll (Instruction.commands pc length (Instruction.onByte digit shifts))
    let final (shifts : List Shift) := (ran shifts).2
    let times (rotation : Rotation) := List.replicate count (Shift.rotate rotation)
    ((final (times .left)).ring digit = (machine.ring digit).rotateLeft (count % 9) ∧
      (final (times .right)).ring digit = (machine.ring digit).rotateRight (count % 9) ∧
      (final (times .left ++ times .right)).ring digit = machine.ring digit ∧
      (final (times .right ++ times .left)).ring digit = machine.ring digit) ∧
    (((final (times .leftCircular)).named digit).toBitVec =
        (machine.named digit).toBitVec.rotateLeft (count % 8) ∧
      (final (times .leftCircular)).cpu.flags.carry =
        bit ((final (times .leftCircular)).named digit) 0 ∧
      ((final (times .rightCircular)).named digit).toBitVec =
        (machine.named digit).toBitVec.rotateRight (count % 8) ∧
      (final (times .rightCircular)).cpu.flags.carry =
        bit ((final (times .rightCircular)).named digit) 7 ∧
      (final (times .leftCircular ++ times .rightCircular)).named digit = machine.named digit ∧
      (final (times .rightCircular ++ times .leftCircular)).named digit = machine.named digit) ∧
    ((final [.swap]).named digit =
        (final (List.replicate 4 (.rotate .leftCircular))).named digit ∧
      (final [.swap, .swap]).named digit = machine.named digit ∧
      (final [.swap]).cpu.flags.carry = false) ∧
    (∀ shifts, shifts ≠ [] →
      (∀ reply ∈ (ran shifts).1, ∃ next, reply = .ok (.executed next false)) ∧
        (final shifts).cpu.flags.zero = decide ((final shifts).named digit = 0) ∧
        final shifts =
          machine.withNamed digit ((final shifts).named digit) (final shifts).cpu.flags) ∧
    (∀ (rotation : Rotation) (pc length : UInt16),
      let plain := machine.apply (.execute (.shift (.rotate rotation) (.register .a)) pc length)
      machine.apply (.execute (.rotateAccumulator rotation) pc length) = (plain.1,
        { plain.2 with
          cpu := { plain.2.cpu with flags := { plain.2.cpu.flags with zero := false } } })) ∧
    ∀ (pc : UInt16) (cycles : Int), machine.cpu.halted = false →
      (∀ s, machine.bus.read pc = 0xcb →
        (decodeExtended (machine.bus.read (pc + 1))).instruction =
          .shift s (Opcode.operand digit) →
        ∃ log cost, machine.apply (.step pc cycles) = (.ok (.progress ⟨pc + 2, cycles - cost⟩),
          ⟨{ (final [s]).cpu with pc := pc + 2 }, (final [s]).bus, log⟩)) ∧
      ∀ rotation, decode (machine.bus.read pc) = some (.fixed (.rotateAccumulator rotation) 1) →
        let rotated := (machine.apply (.execute (.rotateAccumulator rotation) pc 1)).2
        ∃ log, machine.apply (.step pc cycles) = (.ok (.progress ⟨pc + 1, cycles - 1⟩),
          ⟨{ rotated.cpu with pc := pc + 1 }, rotated.bus, log⟩) := by
  intro ran final times
  have finals (shifts : List Shift) : final shifts = machine.shiftedAll digit shifts :=
    machine.snd_applyAll_onByte digit shifts pc length
  have left : Rotation.left.ThroughCarry := .inl rfl
  have right : Rotation.right.ThroughCarry := .inr rfl
  have leftCircular : ¬ Rotation.leftCircular.ThroughCarry := by simp [Rotation.ThroughCarry]
  have rightCircular : ¬ Rotation.rightCircular.ThroughCarry := by simp [Rotation.ThroughCarry]
  simp only [finals]
  refine ⟨⟨?_, ?_, ?_, ?_⟩, ⟨?_, ?_, ?_, ?_, ?_, ?_⟩, ⟨?_, ?_, rfl⟩, ?_, ?_, ?_⟩
  next => exact (machine.ring_replicate digit count left).trans (Rotation.left.turn_mod _ _).symm
  next => exact (machine.ring_replicate digit count right).trans (Rotation.right.turn_mod _ _).symm
  next => exact machine.ring_opposite digit count left
  next => exact machine.ring_opposite digit count right
  next =>
    exact (machine.named_replicate digit count leftCircular).trans
      (Rotation.leftCircular.turn_mod _ _).symm
  next => exact carry_replicate Rotation.carry_leftCircular machine digit repeated
  next =>
    exact (machine.named_replicate digit count rightCircular).trans
      (Rotation.rightCircular.turn_mod _ _).symm
  next => exact carry_replicate Rotation.carry_rightCircular machine digit repeated
  next => exact machine.named_opposite digit count leftCircular
  next => exact machine.named_opposite digit count rightCircular
  next =>
    rw [← UInt8.toBitVec_inj, machine.named_replicate digit 4 leftCircular]
    exact machine.named_swap digit
  next => exact machine.named_swap_swap digit
  next =>
    intro shifts nonempty
    refine ⟨?_, machine.zero_shiftedAll digit nonempty, machine.shiftedAll_eq_withNamed digit shifts⟩
    exact Instruction.proceeds_commands (Instruction.straight_onByte digit shifts) machine pc length
  next => exact machine.apply_rotateAccumulator
  next =>
    intro pc cycles running
    exact ⟨fun _ extended selects => exists_apply_step_shift running extended selects cycles,
      fun _ known => exists_apply_step_rotateAccumulator running known cycles⟩

-- Ten rotations of a byte in memory, one more than a whole turn through the carry, and a step on one.
def turning : Machine Memory where
  cpu := { h := 0xc0, flags := { carry := true } }
  bus := ((Memory.zero.write 0xc000 0x81).write 0x0150 0xcb).write 0x0151 0x16

theorem rotations_go_around_in_memory :
    let final (shifts : List Shift) := (turning.applyAll (Instruction.commands
      (fun i => 0x0150 + UInt16.ofNat i) (fun _ => 2) (Instruction.onByte 6 shifts))).2
    let times (rotation : Rotation) := List.replicate 10 (Shift.rotate rotation)
    1 ≤ 10 ∧ (final (times .left)).ring 6 = 0x103#9 ∧
      ((final (times .rightCircular)).named 6).toBitVec = 0x60#8 ∧
      (final (times .rightCircular)).cpu.flags.carry =
        bit ((final (times .rightCircular)).named 6) 7 ∧
      (final [.swap]).cpu.flags.zero = decide ((final [.swap]).named 6 = 0) ∧
      ∃ log cost, turning.apply (.step 0x0150 8) = (.ok (.progress ⟨0x0152, 8 - cost⟩),
        ⟨{ (final [.rotate .left]).cpu with pc := 0x0152 }, (final [.rotate .left]).bus, log⟩) := by
  intro final times
  have byte : turning.named 6 = 0x81 := by
    simp [named, turning, Memory.read_write, word]
  have ring : turning.ring 6 = 0x181#9 := by rw [Machine.ring, byte]; rfl
  have extended : turning.bus.read 0x0150 = 0xcb := by simp [turning, Memory.read_write]
  have selected : turning.bus.read (0x0150 + 1) = 0x16 := by simp [turning]
  have selects : (decodeExtended (turning.bus.read (0x0150 + 1))).instruction =
      .shift (.rotate .left) (Opcode.operand 6) := by rw [selected]; rfl
  obtain ⟨⟨left, -⟩, ⟨-, -, right, carry, -⟩, -, shifts, -, steps⟩ :=
    @rotations_go_around turning 6 10 (by decide) (fun i => 0x0150 + UInt16.ofNat i) (fun _ => 2)
  obtain ⟨-, zero, -⟩ := shifts [.swap] (List.cons_ne_nil _ _)
  rw [ring] at left
  rw [byte] at right
  exact ⟨by decide, left, right, carry, zero, (steps 0x0150 8 rfl).1 _ extended selects⟩

end Machine

end Sm83
