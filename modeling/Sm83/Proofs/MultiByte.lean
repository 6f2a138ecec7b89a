import Mathlib.Tactic.IntervalCases
import Mathlib.Tactic.Ring
import Sm83.Proofs.FlatMemory
import Sm83.Proofs.StraightLine

set_option autoImplicit false

namespace Sm83

theorem emod_of_carry {result room total : Int} {carry : Bool} (nonnegative : 0 ≤ result)
    (fits : result < room) (exact : total = result + room * carry.toNat) :
    result = total % room ∧ (carry = true ↔ room ≤ total) := by
  cases carry with
  | false =>
    obtain rfl : total = result := by simpa using exact
    exact ⟨(Int.emod_eq_of_lt nonnegative fits).symm, by simpa using fits⟩
  | true =>
    obtain rfl : total = result + room := by simpa using exact
    rw [Int.add_emod_right]
    exact ⟨(Int.emod_eq_of_lt nonnegative fits).symm, by simpa using nonnegative⟩

theorem emod_of_borrow {result room total : Int} {borrow : Bool} (nonnegative : 0 ≤ result)
    (fits : result < room) (exact : result = total + room * borrow.toNat) :
    result = total % room ∧ (borrow = true ↔ total < 0) := by
  cases borrow with
  | false =>
    obtain rfl : result = total := by simpa using exact
    exact ⟨(Int.emod_eq_of_lt nonnegative fits).symm, by simpa using nonnegative⟩
  | true =>
    obtain rfl : result = total + room := by simpa using exact
    rw [← Int.add_emod_right total]
    exact ⟨(Int.emod_eq_of_lt nonnegative fits).symm, by simp; omega⟩

def Within (start : UInt16) (count : Nat) (address : UInt16) : Prop :=
  ∃ i < count, address = start + UInt16.ofNat i

namespace Within

variable {start address : UInt16} {count : Nat}

theorem head (start : UInt16) (count : Nat) : Within start (count + 1) start :=
  ⟨0, by omega, by simp⟩

theorem next (within : Within (start + 1) count address) : Within start (count + 1) address := by
  obtain ⟨i, below, rfl⟩ := within
  exact ⟨i + 1, by omega, (add_ofNat_succ start i).symm⟩

theorem more (within : Within start count address) : Within start (count + 1) address := by
  obtain ⟨i, below, rfl⟩ := within
  exact ⟨i, by omega, rfl⟩

theorem eq_start (within : Within start 1 address) : address = start := by
  obtain ⟨i, below, rfl⟩ := within
  obtain rfl : i = 0 := by omega
  exact UInt16.add_zero start

-- Short of going all the way around, one does not come back to where one started.
theorem ne_start (few : count < 65536) (within : Within (start + 1) count address) :
    address ≠ start := by
  obtain ⟨i, below, rfl⟩ := within
  intro same
  rw [← add_ofNat_succ] at same
  have around : UInt16.ofNat (i + 1) = 0 := by grind
  have multiple := congrArg UInt16.toNat around
  rw [UInt16.toNat_ofNat', UInt16.toNat_zero] at multiple
  omega

theorem ne_end (few : count < 65536) (within : Within start count address) :
    address ≠ start + UInt16.ofNat count := by
  obtain ⟨i, below, rfl⟩ := within
  intro same
  have offsets : UInt16.ofNat i = UInt16.ofNat count := by grind
  have numbers := congrArg UInt16.toNat offsets
  rw [UInt16.toNat_ofNat', UInt16.toNat_ofNat'] at numbers
  omega

end Within

namespace Memory

def number (memory : Memory) : UInt16 → Nat → Nat
  | _, 0 => 0
  | address, count + 1 => (memory.read address).toNat + 256 * memory.number (address + 1) count

theorem number_two (memory : Memory) (address : UInt16) :
    memory.number address 2 = (memory.readWord address).toNat := by
  rw [readWord, toNat_word]
  simp [number]
  omega

theorem number_lt (memory : Memory) (address : UInt16) (count : Nat) :
    memory.number address count < 256 ^ count := by
  induction count generalizing address with
  | zero => simp [number]
  | succ count ih =>
    have low := (memory.read address).toNat_lt
    have high := ih (address + 1)
    rw [number, Nat.pow_succ]
    omega

theorem number_congr {memory other : Memory} {address : UInt16} {count : Nat}
    (same : ∀ place, Within address count place → other.read place = memory.read place) :
    other.number address count = memory.number address count := by
  induction count generalizing address with
  | zero => rfl
  | succ count ih =>
    have rest := ih fun place within => same place within.next
    rw [number, number, same address (.head address count), rest]

end Memory

-- The operation puts a byte and a carry to the accumulator, as a sum or with the sign of a
-- difference, and nothing of the result is lost: what does not fit the byte is in the carry.
structure Operation.Carries (operation : Operation) (sign : Int) : Prop where
  stored : operation ≠ .compare
  exact : ∀ a value carry, ((operation.apply a value carry).1.toNat : Int) =
    a.toNat + sign * (value.toNat + carry.toNat - 256 * (operation.apply a value carry).2.toNat)

namespace Operation

theorem carries_addCarry : Operation.addCarry.Carries 1 where
  stored := by decide
  exact a value carry := by
    have sum : (Sm83.addCarry a value carry).1.toNat + 256 * (Sm83.addCarry a value carry).2.toNat =
      a.toNat + value.toNat + carry.toNat := toNat_addCarry a value carry
    simp only [apply]
    omega

theorem carries_subCarry : Operation.subCarry.Carries (-1) where
  stored := by decide
  exact a value carry := by
    have difference : (subBorrow a value carry).1.toNat + value.toNat + carry.toNat =
      a.toNat + 256 * (subBorrow a value carry).2.toNat := toNat_subBorrow a value carry
    simp only [apply]
    omega

end Operation

namespace Instruction

def round (operation : Operation) : List Instruction :=
  [load (.register .a) (.indirect .de), operate operation (.indirect .hl), storeStepping .up,
    stepWord .up .de]

def rounds (operation : Operation) (count : Nat) : List Instruction :=
  (List.replicate count (round operation)).flatten

theorem straight_rounds (operation : Operation) (count : Nat) :
    ∀ instruction ∈ rounds operation count, instruction.Straight := by
  have one : ∀ instruction ∈ round operation, instruction.Straight := by
    simp only [round, List.forall_mem_cons]
    exact ⟨fun _ _ _ => rfl, fun _ _ _ => rfl, fun _ _ _ => rfl, fun _ _ _ => rfl,
      List.forall_mem_nil _⟩
  intro instruction member
  obtain ⟨_, copy, here⟩ := List.mem_flatten.mp member
  exact one instruction (List.eq_of_mem_replicate copy ▸ here)

end Instruction

namespace Machine

def afterRound (operation : Operation) (machine : Machine Memory) : Machine Memory :=
  let hl := machine.cpu.getWord .hl
  let de := machine.cpu.getWord .de
  let (result, carry) :=
    operation.apply (machine.bus.read de) (machine.bus.read hl) machine.cpu.flags.carry
  let cpu := { machine.cpu with a := result, flags := { zero := result = 0, carry } }
  { machine with
    cpu := (cpu.setWord .hl (hl + 1)).setWord .de (de + 1)
    bus := machine.bus.write hl result }

section Round

variable (operation : Operation) (machine : Machine Memory)

theorem getWord_hl_afterRound :
    (machine.afterRound operation).cpu.getWord .hl = machine.cpu.getWord .hl + 1 := by
  simp [afterRound, Cpu.setWord, Cpu.getWord]

theorem getWord_de_afterRound :
    (machine.afterRound operation).cpu.getWord .de = machine.cpu.getWord .de + 1 :=
  Cpu.getWord_setWord_self _ .de _ (by decide)

theorem read_afterRound_of_ne {address : UInt16} (elsewhere : address ≠ machine.cpu.getWord .hl) :
    (machine.afterRound operation).bus.read address = machine.bus.read address := by
  simp only [afterRound, Memory.read_write, if_neg elsewhere]

end Round

variable {machine : Machine Memory} {operation : Operation} {sign : Int} {count : Nat}

theorem foldl_round (stored : operation ≠ .compare) (machine : Machine Memory) :
    (Instruction.round operation).foldl after machine = machine.afterRound operation := by
  obtain ⟨cpu, memory, log⟩ := machine
  let loaded : Cpu := { cpu with a := memory.read (cpu.getWord .de) }
  let combined := loaded.operate operation (memory.read (cpu.getWord .hl))
  have operated : combined = { cpu with
      a := (operation.apply loaded.a (memory.read (cpu.getWord .hl)) cpu.flags.carry).1
      flags := combined.flags } := by
    simp only [combined, Cpu.operate, if_neg stored]
    rfl
  have ran : (Instruction.round operation).foldl after ⟨cpu, memory, log⟩ =
      ⟨(combined.stepWord .up .hl).stepWord .up .de,
        memory.write (combined.getWord .hl) combined.a, log⟩ := rfl
  rw [ran]
  simp only [afterRound, Cpu.stepWord_eq]
  rw [operated]
  rfl

theorem foldl_rounds (stored : operation ≠ .compare) (machine : Machine Memory) (count : Nat) :
    (Instruction.rounds operation count).foldl after machine =
      (afterRound operation)^[count] machine := by
  induction count generalizing machine with
  | zero => rfl
  | succ count ih =>
    have unroll : Instruction.rounds operation (count + 1) =
        Instruction.round operation ++ Instruction.rounds operation count := rfl
    rw [unroll, List.foldl_append, foldl_round stored, ih, Function.iterate_succ_apply]

theorem applyAll_rounds (stored : operation ≠ .compare) (machine : Machine Memory)
    (pc length : Nat → UInt16) (count : Nat) :
    let ran := machine.applyAll
      (Instruction.commands pc length (Instruction.rounds operation count))
    ran.2 = (afterRound operation)^[count] machine ∧
      ∀ reply ∈ ran.1, ∃ next, reply = .ok (.executed next false) := by
  have straight := Instruction.straight_rounds operation count
  refine ⟨?_, Instruction.proceeds_commands straight machine pc length⟩
  rw [Instruction.applyAll_commands straight, foldl_rounds stored]

structure Advanced (count : Nat) (machine after : Machine Memory) : Prop where
  hl : after.cpu.getWord .hl = machine.cpu.getWord .hl + UInt16.ofNat count
  de : after.cpu.getWord .de = machine.cpu.getWord .de + UInt16.ofNat count
  outside : ∀ address, ¬ Within (machine.cpu.getWord .hl) count address →
    after.bus.read address = machine.bus.read address
  b : after.cpu.b = machine.cpu.b
  c : after.cpu.c = machine.cpu.c
  sp : after.cpu.sp = machine.cpu.sp
  interruptsEnabled : after.cpu.interruptsEnabled = machine.cpu.interruptsEnabled
  halted : after.cpu.halted = machine.cpu.halted

theorem advanced_rounds (operation : Operation) (machine : Machine Memory) (count : Nat) :
    Advanced count machine ((afterRound operation)^[count] machine) := by
  induction count generalizing machine with
  | zero => exact ⟨by simp, by simp, fun _ _ => rfl, rfl, rfl, rfl, rfl, rfl⟩
  | succ count ih =>
    have later := ih (machine.afterRound operation)
    rw [Function.iterate_succ_apply]
    refine ⟨?_, ?_, fun address outside => ?_, later.b, later.c, later.sp,
      later.interruptsEnabled, later.halted⟩
    next => rw [later.hl, getWord_hl_afterRound, add_ofNat_succ]
    next => rw [later.de, getWord_de_afterRound, add_ofNat_succ]
    next =>
      have here : address ≠ machine.cpu.getWord .hl := fun same => outside (same ▸ .head _ _)
      rw [later.outside address, read_afterRound_of_ne operation machine here]
      rw [getWord_hl_afterRound]
      exact fun within => outside within.next

-- The invariant of the rounds: what has been put together so far is exact, except for what the
-- carry stands for at the place of the byte that comes next.
theorem number_rounds (carries : operation.Carries sign) (few : count ≤ 65536)
    (apart : ∀ address, Within (machine.cpu.getWord .hl) count address →
      ¬ Within (machine.cpu.getWord .de) count address) :
    let after := (afterRound operation)^[count] machine
    (after.bus.number (machine.cpu.getWord .hl) count : Int) =
      machine.bus.number (machine.cpu.getWord .de) count +
        sign * (machine.bus.number (machine.cpu.getWord .hl) count + machine.cpu.flags.carry.toNat -
          256 ^ count * after.cpu.flags.carry.toNat) := by
  induction count generalizing machine with
  | zero => simp [Memory.number]
  | succ count ih =>
    let middle := machine.afterRound operation
    have hl : middle.cpu.getWord .hl = machine.cpu.getWord .hl + 1 := getWord_hl_afterRound _ _
    have de : middle.cpu.getWord .de = machine.cpu.getWord .de + 1 := getWord_de_afterRound _ _
    have rest := @ih middle (by omega) (by
      rw [hl, de]
      exact fun address target source => apart address target.next source.next)
    rw [hl, de] at rest
    -- The byte that has been written is final, and neither number is touched further on.
    have final := (advanced_rounds operation middle count).outside (machine.cpu.getWord .hl) (by
      rw [hl]
      exact fun within => within.ne_start (by omega) rfl)
    have target : middle.bus.number (machine.cpu.getWord .hl + 1) count =
        machine.bus.number (machine.cpu.getWord .hl + 1) count :=
      Memory.number_congr fun place within =>
        read_afterRound_of_ne operation machine (within.ne_start (by omega))
    have source : middle.bus.number (machine.cpu.getWord .de + 1) count =
        machine.bus.number (machine.cpu.getWord .de + 1) count :=
      Memory.number_congr fun place within =>
        read_afterRound_of_ne operation machine fun same =>
          apart place (same ▸ .head _ _) within.next
    let combined := operation.apply (machine.bus.read (machine.cpu.getWord .de))
      (machine.bus.read (machine.cpu.getWord .hl)) machine.cpu.flags.carry
    have byte : (combined.1.toNat : Int) = _ := carries.exact _ _ _
    have written : middle.bus.read (machine.cpu.getWord .hl) = combined.1 :=
      Memory.read_write_self ..
    have carried : middle.cpu.flags.carry = combined.2 := rfl
    rw [target, source, carried] at rest
    simp only [Function.iterate_succ_apply, Memory.number, Nat.cast_add, Nat.cast_mul]
    rw [final, written, byte, rest]
    push_cast
    ring

/-- Rounds of additions with carry, or of subtractions with carry, on numbers of any length that
stand apart from each other: the number at `HL` becomes their sum or their difference, modulo what
fits, and the carry tells whether it did not fit. -/
theorem rounds_exact {machine : Machine Memory} {count : Nat} (few : count ≤ 32768)
    (apart : ∀ address, Within (machine.cpu.getWord .hl) count address →
      ¬ Within (machine.cpu.getWord .de) count address)
    (pc length : Nat → UInt16) :
    let hl := machine.cpu.getWord .hl
    let de := machine.cpu.getWord .de
    let x := machine.bus.number hl count
    let y := machine.bus.number de count
    let c := machine.cpu.flags.carry.toNat
    let ran (operation : Operation) :=
      machine.applyAll (Instruction.commands pc length (Instruction.rounds operation count))
    ((ran .addCarry).2.bus.number hl count = (y + x + c) % 256 ^ count ∧
      ((ran .addCarry).2.cpu.flags.carry = true ↔ 256 ^ count ≤ y + x + c)) ∧
    (((ran .subCarry).2.bus.number hl count : Int) = ((y : Int) - x - c) % 256 ^ count ∧
      ((ran .subCarry).2.cpu.flags.carry = true ↔ y < x + c)) ∧
    ∀ operation, operation = .addCarry ∨ operation = .subCarry →
      (∀ reply ∈ (ran operation).1, ∃ next, reply = .ok (.executed next false)) ∧
        (ran operation).2.bus.number de count = y ∧ Advanced count machine (ran operation).2 := by
  intro hl de x y c ran
  refine ⟨?_, ?_, ?_⟩
  next =>
    have ends := (applyAll_rounds Operation.carries_addCarry.stored machine pc length count).1
    have sum := number_rounds Operation.carries_addCarry (by omega) apart
    rw [← ends] at sum
    have total : ((y + x + c : Nat) : Int) = (ran .addCarry).2.bus.number hl count +
        (256 ^ count : Nat) * ((ran .addCarry).2.cpu.flags.carry.toNat : Int) := by
      rw [sum]
      push_cast
      ring
    exact mod_cast emod_of_carry (by omega) (mod_cast Memory.number_lt ..) total
  next =>
    have ends := (applyAll_rounds Operation.carries_subCarry.stored machine pc length count).1
    have difference := number_rounds Operation.carries_subCarry (by omega) apart
    rw [← ends] at difference
    have total : ((ran .subCarry).2.bus.number hl count : Int) = (y - x - c : Int) +
        256 ^ count * ((ran .subCarry).2.cpu.flags.carry.toNat : Int) := by
      rw [difference]
      ring
    obtain ⟨remainder, negative⟩ := emod_of_borrow (by omega) (mod_cast Memory.number_lt ..) total
    exact ⟨remainder, negative.trans (by omega)⟩
  next =>
    intro operation carries
    have stored : operation ≠ .compare := by rintro rfl; simp at carries
    obtain ⟨ends, proceeds⟩ := applyAll_rounds stored machine pc length count
    have advanced := advanced_rounds operation machine count
    rw [← ends] at advanced
    refine ⟨proceeds, ?_, advanced⟩
    exact Memory.number_congr fun place source =>
      advanced.outside place fun target => apart place target source

-- The number 0xff80 goes around at the top of memory; the one at 0x8000 is 0x0180.
def wrapping : Machine Memory where
  cpu := { d := 0x80, h := 0xff, l := 0xff, flags := { carry := true } }
  bus := (((Memory.zero.write 0xffff 0x80).write 0 0xff).write 0x8000 0x80).write 0x8001 0x01

theorem rounds_exact_wrapping :
    2 ≤ 32768 ∧ (∀ address, Within 0xffff 2 address → ¬ Within 0x8000 2 address) ∧
    let ran (operation : Operation) := (wrapping.applyAll
      (Instruction.commands (fun i => 0x0150 + UInt16.ofNat i) (fun _ => 1)
        (Instruction.rounds operation 2))).2
    (ran .addCarry).bus.number 0xffff 2 = 0x0101 ∧ (ran .addCarry).cpu.flags.carry = true ∧
      (ran .addCarry).cpu.getWord .hl = 1 ∧ (ran .addCarry).bus.number 0x8000 2 = 0x0180 ∧
      (ran .subCarry).bus.number 0xffff 2 = 0x01ff ∧ (ran .subCarry).cpu.flags.carry = true := by
  have apart : ∀ address, Within 0xffff 2 address → ¬ Within 0x8000 2 address := by
    rintro address ⟨i, _, rfl⟩ ⟨j, _, same⟩
    interval_cases i <;> interval_cases j <;> revert same <;> decide
  have hl : wrapping.cpu.getWord .hl = 0xffff := by decide
  have de : wrapping.cpu.getWord .de = 0x8000 := by decide
  have target : wrapping.bus.readWord 0xffff = 0xff80 := by
    simp [wrapping, Memory.readWord, Memory.read_write]
    decide
  have source : wrapping.bus.readWord 0x8000 = 0x0180 := by
    simp [wrapping, Memory.readWord, Memory.read_write]
    decide
  have x : wrapping.bus.number 0xffff 2 = 0xff80 := by rw [Memory.number_two, target]; rfl
  have y : wrapping.bus.number 0x8000 2 = 0x0180 := by rw [Memory.number_two, source]; rfl
  have exact := @rounds_exact wrapping 2 (by decide) (by rwa [hl, de])
    (fun i => 0x0150 + UInt16.ofNat i) (fun _ => 1)
  simp only [hl, de, x, y] at exact
  obtain ⟨⟨sum, carry⟩, ⟨difference, borrow⟩, kept⟩ := exact
  obtain ⟨-, still, advanced⟩ := kept .addCarry (.inl rfl)
  have c : wrapping.cpu.flags.carry.toNat = 1 := rfl
  rw [c] at sum carry difference borrow
  exact ⟨by decide, apart, sum, carry.mpr (by norm_num), advanced.hl, still,
    Int.ofNat_inj.mp difference, borrow.mpr (by decide)⟩

end Machine

end Sm83
