import Sm83.Proofs.MultiByte
import Sm83.Proofs.NamedBytes

set_option autoImplicit false

namespace Sm83

namespace Memory

variable {memory other : Memory} {address : UInt16} {count : Nat}

theorem number_succ (memory : Memory) (address : UInt16) (count : Nat) :
    memory.number address (count + 1) = memory.number address count +
      256 ^ count * (memory.read (address + UInt16.ofNat count)).toNat := by
  induction count generalizing address with
  | zero => simp [number]
  | succ count ih =>
    rw [number, ih (address + 1), number, add_ofNat_succ]
    ring

theorem read_of_number (same : memory.number address count = other.number address count)
    {place : UInt16} (within : Within address count place) :
    memory.read place = other.read place := by
  induction count generalizing address with
  | zero =>
    obtain ⟨i, below, -⟩ := within
    cases below
  | succ count ih =>
    have low := (memory.read address).toNat_lt
    have otherLow := (other.read address).toNat_lt
    simp only [number] at same
    have rest : memory.number (address + 1) count = other.number (address + 1) count := by omega
    obtain ⟨i, below, rfl⟩ := within
    cases i with
    | zero =>
      have start : address + UInt16.ofNat 0 = address := UInt16.add_zero address
      rw [start, ← UInt8.toNat_inj]
      omega
    | succ i => exact ih rest ⟨i, by omega, add_ofNat_succ address i⟩

end Memory

namespace Instruction

def upwards (shifts : List Shift) : List Instruction :=
  shifts.flatMap fun s => [shift s (.indirect .hl), stepWord .up .hl]

def downwards (shifts : List Shift) : List Instruction :=
  shifts.flatMap fun s => [stepWord .down .hl, shift s (.indirect .hl)]

theorem straight_upwards (shifts : List Shift) :
    ∀ instruction ∈ upwards shifts, instruction.Straight := by
  simp only [upwards, List.mem_flatMap, List.mem_cons, List.not_mem_nil, or_false]
  rintro instruction ⟨s, -, rfl | rfl⟩
  next => exact straight_shift 6 s
  next => exact straight_stepWord .up .hl

theorem straight_downwards (shifts : List Shift) :
    ∀ instruction ∈ downwards shifts, instruction.Straight := by
  simp only [downwards, List.mem_flatMap, List.mem_cons, List.not_mem_nil, or_false]
  rintro instruction ⟨s, -, rfl | rfl⟩
  next => exact straight_stepWord .down .hl
  next => exact straight_shift 6 s

end Instruction

namespace Machine

structure Reshaped (start : UInt16) (count : Nat) (hl : UInt16) (machine final : Machine Memory) :
    Prop where
  cpu : final.cpu = { machine.cpu.setWord .hl hl with flags := final.cpu.flags }
  outside : ∀ place, ¬ Within start count place → final.bus.read place = machine.bus.read place
  log : final.log = machine.log

namespace Reshaped

variable {start start' hl hl' : UInt16} {count count' : Nat} {machine middle final : Machine Memory}

theorem refl (machine : Machine Memory) (start : UInt16) (count : Nat) :
    Reshaped start count (machine.cpu.getWord .hl) machine machine where
  cpu := by simp [Cpu.setWord, Cpu.getWord]
  outside _ _ := rfl
  log := rfl

theorem getWord_hl (reshaped : Reshaped start count hl machine final) :
    final.cpu.getWord .hl = hl := by
  rw [reshaped.cpu]
  exact Cpu.getWord_setWord_self machine.cpu .hl hl (by decide)

theorem trans (first : Reshaped start count hl machine middle)
    (second : Reshaped start count hl' middle final) : Reshaped start count hl' machine final where
  cpu := by
    rw [second.cpu, first.cpu]
    rfl
  outside place outside := (second.outside place outside).trans (first.outside place outside)
  log := second.log.trans first.log

theorem widen (reshaped : Reshaped start count hl machine final)
    (wider : ∀ place, Within start count place → Within start' count' place) :
    Reshaped start' count' hl machine final where
  cpu := reshaped.cpu
  outside place outside := reshaped.outside place fun within => outside (wider place within)
  log := reshaped.log

theorem number_eq (reshaped : Reshaped start count hl machine final)
    (apart : ∀ place, Within start' count' place → ¬ Within start count place) :
    final.bus.number start' count' = machine.bus.number start' count' :=
  Memory.number_congr fun place within => reshaped.outside place (apart place within)

end Reshaped

section Byte

variable {machine : Machine Memory} {hl : UInt16} (here : machine.cpu.getWord .hl = hl) (s : Shift)

include here

theorem read_shifted : (machine.shifted 6 s).bus.read hl =
    (s.apply (machine.bus.read hl) machine.cpu.flags.carry).1 := by
  subst here
  exact machine.named_shifted 6 s

theorem carry_shifted_byte : (machine.shifted 6 s).cpu.flags.carry =
    (s.apply (machine.bus.read hl) machine.cpu.flags.carry).2 := by
  subst here
  exact machine.carry_shifted 6 s

theorem reshaped_shifted : Reshaped hl 1 hl machine (machine.shifted 6 s) where
  cpu := by
    subst here
    simp only [Cpu.setWord, Cpu.getWord, highByte_word, lowByte_word]
    rfl
  outside place outside := by
    subst here
    have elsewhere : place ≠ machine.cpu.getWord .hl := fun same => outside (same ▸ .head _ _)
    exact (Memory.read_write ..).trans (if_neg elsewhere)
  log := rfl

theorem reshaped_stepWord (start : UInt16) (count : Nat) (direction : Direction) :
    Reshaped start count (direction.word hl) machine (machine.after (.stepWord direction .hl)) where
  cpu := by
    change machine.cpu.stepWord direction .hl = _
    rw [Cpu.stepWord_eq, here]
    rfl
  outside _ _ := rfl
  log := rfl

end Byte

structure Doubles (start : UInt16) (count : Nat) (entering : Bool) (machine final : Machine Memory) :
    Prop where
  exact : final.bus.number start count + 256 ^ count * final.cpu.flags.carry.toNat =
    2 * machine.bus.number start count + entering.toNat
  reshaped : Reshaped start count (start + UInt16.ofNat count) machine final

structure Halves (start : UInt16) (count : Nat) (entering : Bool) (machine final : Machine Memory) :
    Prop where
  exact : 2 * final.bus.number start count + final.cpu.flags.carry.toNat =
    machine.bus.number start count + 256 ^ count * entering.toNat
  reshaped : Reshaped start count start machine final

variable {machine final : Machine Memory} {start hl : UInt16} {count : Nat} {first : Shift}
  {entering : Bool}

-- The byte that has been shifted is final, and the bit that has left it enters the rest.
theorem Doubles.step (few : count < 65536) (here : machine.cpu.getWord .hl = hl)
    (enters : first.apply (machine.bus.read hl) machine.cpu.flags.carry =
      shiftLeft (machine.bus.read hl) entering)
    (rest : Doubles (hl + 1) count (machine.shifted 6 first).cpu.flags.carry
      ((machine.shifted 6 first).after (.stepWord .up .hl)) final) :
    Doubles hl (count + 1) entering machine final := by
  let middle := (machine.shifted 6 first).after (.stepWord .up .hl)
  have moved : Reshaped hl 1 (hl + 1) machine middle := by
    have shifted := reshaped_shifted here first
    exact shifted.trans (reshaped_stepWord shifted.getWord_hl hl 1 .up)
  have byte : ((machine.shifted 6 first).bus.read hl).toNat +
      256 * (machine.shifted 6 first).cpu.flags.carry.toNat =
        2 * (machine.bus.read hl).toNat + entering.toNat := by
    rw [read_shifted here, carry_shifted_byte here, enters, toNat_shiftLeft]
  have written : final.bus.read hl = (machine.shifted 6 first).bus.read hl :=
    rest.reshaped.outside hl fun within => within.ne_start few rfl
  have kept : middle.bus.number (hl + 1) count = machine.bus.number (hl + 1) count :=
    moved.number_eq fun place within one => within.ne_start few one.eq_start
  refine ⟨?_, ?_⟩
  next =>
    have others := rest.exact
    rw [kept] at others
    rw [Memory.number, Memory.number, written, Nat.pow_succ', Nat.mul_assoc]
    omega
  next =>
    have one : Reshaped hl (count + 1) (hl + 1) machine middle :=
      moved.widen fun place one => one.eq_start ▸ .head hl count
    have more := rest.reshaped.widen fun place (within : Within _ count place) => within.next
    rw [← add_ofNat_succ] at more
    exact one.trans more

theorem foldl_upwards_cons (machine : Machine Memory) (s : Shift) (rest : List Shift) :
    (Instruction.upwards (s :: rest)).foldl after machine =
      (Instruction.upwards rest).foldl after
        ((machine.shifted 6 s).after (.stepWord .up .hl)) := by
  rw [← machine.after_shift]
  rfl

theorem doubles_rotations (few : count ≤ 65536) (here : machine.cpu.getWord .hl = hl) :
    Doubles hl count machine.cpu.flags.carry machine
      ((Instruction.upwards (List.replicate count (.rotate .left))).foldl after machine) := by
  induction count generalizing machine hl with
  | zero =>
    have start : hl + UInt16.ofNat 0 = hl := UInt16.add_zero hl
    refine ⟨by simp [Memory.number, Instruction.upwards], ?_⟩
    rw [start]
    exact here ▸ Reshaped.refl machine hl 0
  | succ count ih =>
    have moved := reshaped_stepWord (reshaped_shifted here (.rotate .left)).getWord_hl hl 1 .up
    have enters : (Shift.rotate .left).apply (machine.bus.read hl) machine.cpu.flags.carry =
      shiftLeft (machine.bus.read hl) machine.cpu.flags.carry := rfl
    rw [List.replicate_succ, foldl_upwards_cons]
    exact Doubles.step (by omega) here enters (ih (by omega) moved.getWord_hl)

theorem doubles_pass (few : count < 65536) (here : machine.cpu.getWord .hl = hl)
    (enters : first.apply (machine.bus.read hl) machine.cpu.flags.carry =
      shiftLeft (machine.bus.read hl) entering) :
    Doubles hl (count + 1) entering machine
      ((Instruction.upwards (first :: List.replicate count (.rotate .left))).foldl after
        machine) := by
  have moved := reshaped_stepWord (reshaped_shifted here first).getWord_hl hl 1 .up
  rw [foldl_upwards_cons]
  exact Doubles.step few here enters (doubles_rotations (by omega) moved.getWord_hl)

theorem Halves.step (few : count < 65536)
    (here : machine.cpu.getWord .hl = start + UInt16.ofNat count)
    (enters : first.apply (machine.bus.read (start + UInt16.ofNat count)) machine.cpu.flags.carry =
      shiftRight (machine.bus.read (start + UInt16.ofNat count)) entering)
    (rest : Halves start count (machine.shifted 6 first).cpu.flags.carry (machine.shifted 6 first)
      final) :
    Halves start (count + 1) entering machine final := by
  obtain ⟨top, last⟩ : ∃ top, start + UInt16.ofNat count = top := ⟨_, rfl⟩
  rw [last] at here enters
  have moved := reshaped_shifted here first
  have byte : 2 * ((machine.shifted 6 first).bus.read top).toNat +
      (machine.shifted 6 first).cpu.flags.carry.toNat =
        (machine.bus.read top).toNat + 256 * entering.toNat := by
    rw [read_shifted here, carry_shifted_byte here, enters, toNat_shiftRight]
  have written : final.bus.read top = (machine.shifted 6 first).bus.read top :=
    rest.reshaped.outside top fun within => within.ne_end few last.symm
  have kept : (machine.shifted 6 first).bus.number start count = machine.bus.number start count :=
    moved.number_eq fun place within one => within.ne_end few (one.eq_start.trans last.symm)
  refine ⟨?_, ?_⟩
  next =>
    have others := rest.exact
    rw [kept] at others
    calc 2 * final.bus.number start (count + 1) + final.cpu.flags.carry.toNat
        = 2 * final.bus.number start count + final.cpu.flags.carry.toNat +
            256 ^ count * (2 * ((machine.shifted 6 first).bus.read top).toNat) := by
          rw [Memory.number_succ, last, written]
          ring
      _ = machine.bus.number start count +
            256 ^ count * (2 * ((machine.shifted 6 first).bus.read top).toNat +
              (machine.shifted 6 first).cpu.flags.carry.toNat) := by
          rw [others]
          ring
      _ = machine.bus.number start (count + 1) + 256 ^ (count + 1) * entering.toNat := by
          rw [byte, Memory.number_succ, last]
          ring
  next =>
    have one : Reshaped start (count + 1) top machine (machine.shifted 6 first) :=
      moved.widen fun place one => one.eq_start ▸ ⟨count, by omega, last.symm⟩
    exact one.trans (rest.reshaped.widen fun place within => within.more)

theorem foldl_downwards_cons (machine : Machine Memory) (s : Shift) (rest : List Shift) :
    (Instruction.downwards (s :: rest)).foldl after machine =
      (Instruction.downwards rest).foldl after
        ((machine.after (.stepWord .down .hl)).shifted 6 s) := by
  rw [← (machine.after (.stepWord .down .hl)).after_shift]
  rfl

theorem halves_rotations (few : count ≤ 65536)
    (here : machine.cpu.getWord .hl = start + UInt16.ofNat count) :
    Halves start count machine.cpu.flags.carry machine
      ((Instruction.downwards (List.replicate count (.rotate .right))).foldl after machine) := by
  induction count generalizing machine with
  | zero =>
    have bottom : start + UInt16.ofNat 0 = start := UInt16.add_zero start
    rw [bottom] at here
    exact ⟨by simp [Memory.number, Instruction.downwards], here ▸ Reshaped.refl machine start 0⟩
  | succ count ih =>
    let moved := machine.after (.stepWord .down .hl)
    have down : Reshaped start (count + 1) (start + UInt16.ofNat count) machine moved := by
      have below : Direction.down.word (start + UInt16.ofNat (count + 1)) =
          start + UInt16.ofNat count := by
        rw [Direction.word, add_ofNat_succ]
        grind
      exact below ▸ reshaped_stepWord here start (count + 1) .down
    have enters : (Shift.rotate .right).apply (moved.bus.read (start + UInt16.ofNat count))
      moved.cpu.flags.carry = shiftRight (moved.bus.read (start + UInt16.ofNat count))
        moved.cpu.flags.carry := rfl
    have shifted := reshaped_shifted down.getWord_hl (.rotate .right)
    have halves := Halves.step (by omega) down.getWord_hl enters (ih (by omega) shifted.getWord_hl)
    rw [List.replicate_succ, foldl_downwards_cons]
    exact ⟨halves.exact, down.trans halves.reshaped⟩

theorem halves_pass (few : count < 65536)
    (here : machine.cpu.getWord .hl = start + UInt16.ofNat count)
    (enters : first.apply (machine.bus.read (start + UInt16.ofNat count)) machine.cpu.flags.carry =
      shiftRight (machine.bus.read (start + UInt16.ofNat count)) entering) :
    Halves start (count + 1) entering machine
      ((Instruction.downwards (List.replicate count (.rotate .right))).foldl after
        (machine.shifted 6 first)) :=
  Halves.step few here enters
    (halves_rotations (by omega) (reshaped_shifted here first).getWord_hl)

theorem bmod_of_lt {n half : Nat} (fits : n < 2 * half) :
    (n : Int).bmod (2 * half) = if n < half then (n : Int) else n - 2 * half := by
  have whole : (n : Int) % (2 * half : Nat) = n := Int.emod_eq_of_lt (by omega) (by omega)
  rw [Int.bmod_def, whole]
  split <;> split <;> omega

theorem room_eq (some : 1 ≤ count) : 256 ^ count = 2 * 2 ^ (8 * count - 1) := by
  have bits : 256 ^ count = 2 ^ (8 * count) := by rw [Nat.pow_mul]
  have more : 8 * count = (8 * count - 1) + 1 := by omega
  rw [bits, ← Nat.pow_succ', Nat.succ_eq_add_one, ← more]

theorem Doubles.remainder (some : 1 ≤ count) (doubles : Doubles start count entering machine final) :
    final.bus.number start count =
        (2 * machine.bus.number start count + entering.toNat) % 256 ^ count ∧
      final.cpu.flags.carry = (machine.bus.number start count).testBit (8 * count - 1) := by
  have exact := doubles.exact
  have before := machine.bus.number_lt start count
  have after := final.bus.number_lt start count
  have one := entering.toNat_le
  refine ⟨?_, ?_⟩
  next => rw [← exact, Nat.add_mul_mod_self_left, Nat.mod_eq_of_lt after]
  next =>
    rw [room_eq some] at exact before after
    cases carry : final.cpu.flags.carry with
    | false =>
      rw [carry] at exact
      exact (Nat.testBit_lt_two_pow (by simp at exact; omega)).symm
    | true =>
      rw [carry] at exact
      refine (Nat.testBit_of_two_pow_le_and_two_pow_add_one_gt ?_ ?_).symm
      next => simp at exact; omega
      next => rw [Nat.pow_succ']; omega

theorem Halves.carry_eq (some : 1 ≤ count) (halves : Halves start count entering machine final) :
    final.cpu.flags.carry = (machine.bus.number start count).testBit 0 := by
  have exact := halves.exact
  rw [room_eq some, Nat.mul_assoc] at exact
  rw [Nat.testBit_zero]
  cases carry : final.cpu.flags.carry <;> rw [carry] at exact <;> simp at exact ⊢ <;> omega

theorem Halves.quotient (halves : Halves start count false machine final) :
    final.bus.number start count = machine.bus.number start count / 2 := by
  have exact := halves.exact
  have one := final.cpu.flags.carry.toNat_le
  rw [Bool.toNat_false, Nat.mul_zero] at exact
  omega

theorem Halves.signed (some : 1 ≤ count) (halves : Halves start count entering machine final)
    (sign : entering = true ↔ 2 ^ (8 * count - 1) ≤ machine.bus.number start count) :
    (final.bus.number start count : Int).bmod (256 ^ count) =
      (machine.bus.number start count : Int).bmod (256 ^ count) / 2 := by
  have exact := halves.exact
  have before := machine.bus.number_lt start count
  have after := final.bus.number_lt start count
  have one := final.cpu.flags.carry.toNat_le
  rw [room_eq some] at exact before after ⊢
  rw [bmod_of_lt before, bmod_of_lt after]
  cases entering with
  | false =>
    have low := mt sign.mpr Bool.false_ne_true
    simp only [Bool.toNat_false, Nat.mul_zero] at exact
    rw [if_pos (by omega), if_pos (by omega)]
    omega
  | true =>
    have high := sign.mp rfl
    simp only [Bool.toNat_true, Nat.mul_one] at exact
    rw [if_neg (by omega), if_neg (by omega)]
    omega

-- A pass of rotations upwards and one downwards cancel each other out.
theorem restores (few : count ≤ 65536) (here : machine.cpu.getWord .hl = hl) :
    let final :=
      (Instruction.upwards (List.replicate count (.rotate .left)) ++
        Instruction.downwards (List.replicate count (.rotate .right))).foldl after machine
    final.bus = machine.bus ∧ final.cpu.flags.carry = machine.cpu.flags.carry ∧
      Reshaped hl count hl machine final := by
  have up := doubles_rotations few here
  have down := halves_rotations few up.reshaped.getWord_hl
  rw [← List.foldl_append] at down
  intro final
  have reshaped : Reshaped hl count hl machine final := up.reshaped.trans down.reshaped
  have exact : 2 * final.bus.number hl count + final.cpu.flags.carry.toNat =
      2 * machine.bus.number hl count + machine.cpu.flags.carry.toNat := down.exact.trans up.exact
  have one := final.cpu.flags.carry.toNat_le
  have other := machine.cpu.flags.carry.toNat_le
  have number : final.bus.number hl count = machine.bus.number hl count := by omega
  have carry : final.cpu.flags.carry.toNat = machine.cpu.flags.carry.toNat := by omega
  refine ⟨Memory.ext fun place => ?_, ?_, reshaped⟩
  next =>
    by_cases within : Within hl count place
    next => exact Memory.read_of_number number within
    next => exact reshaped.outside place within
  next => rw [← Bool.ofNat_toNat final.cpu.flags.carry, carry, Bool.ofNat_toNat]

theorem halves_of_top (few : count < 65536) {top : Machine Memory}
    (here : top.cpu.getWord .hl = start + UInt16.ofNat count)
    (enters : first.apply (top.bus.read (start + UInt16.ofNat count)) top.cpu.flags.carry =
      shiftRight (top.bus.read (start + UInt16.ofNat count)) entering) :
    Halves start (count + 1) entering top
      ((.shift first (.indirect .hl) ::
        Instruction.downwards (List.replicate count (.rotate .right))).foldl after top) := by
  have pass := halves_pass few here enters
  rwa [← top.after_shift] at pass

theorem top_bit (memory : Memory) (start : UInt16) (count : Nat) :
    128 ≤ memory.read (start + UInt16.ofNat count) ↔
      2 ^ (8 * (count + 1) - 1) ≤ memory.number start (count + 1) := by
  have room := room_eq (Nat.le_add_left 1 count)
  have low := memory.number_lt start count
  rw [Nat.pow_succ'] at room
  rw [Memory.number_succ, UInt8.le_iff_toNat_le]
  change 128 ≤ _ ↔ _
  constructor
  next =>
    intro high
    have := Nat.mul_le_mul_left (256 ^ count) high
    omega
  next =>
    intro high
    by_contra below
    have := Nat.mul_le_mul_left (256 ^ count) (Nat.le_of_lt_succ (Nat.lt_of_not_le below))
    omega

structure Passed (start : UInt16) (count : Nat) (hl : UInt16) (machine : Machine Memory)
    (ran : List (Except Fault Reply) × Machine Memory) : Prop where
  proceeds : ∀ reply ∈ ran.1, ∃ next, reply = .ok (.executed next false)
  reshaped : Reshaped start count hl machine ran.2

/-- Passes over a number of any length, wherever it stands: upwards they double it and let in the
carry or zero; downwards they halve it, without or with a sign. The carry has the bit that has left
the number. A pass of rotations upwards is undone by one downwards. -/
theorem shifts_through_carry {machine : Machine Memory} {count : Nat} (some : 1 ≤ count)
    (few : count ≤ 65536) (pc length : Nat → UInt16) :
    let hl := machine.cpu.getWord .hl
    let x := machine.bus.number hl count
    let top := { machine with cpu := machine.cpu.setWord .hl (hl + UInt16.ofNat (count - 1)) }
    let ran (machine : Machine Memory) (instructions : List Instruction) :=
      machine.applyAll (Instruction.commands pc length instructions)
    let up := Instruction.upwards (List.replicate count (.rotate .left))
    let down := Instruction.downwards (List.replicate count (.rotate .right))
    let rotated := ran machine up
    let restored := ran machine (up ++ down)
    let doubled := ran machine
      (Instruction.upwards (.leftArithmetic :: List.replicate (count - 1) (.rotate .left)))
    let halved (first : Shift) := ran top (.shift first (.indirect .hl) ::
      Instruction.downwards (List.replicate (count - 1) (.rotate .right)))
    (rotated.2.bus.number hl count = (2 * x + machine.cpu.flags.carry.toNat) % 256 ^ count ∧
      rotated.2.cpu.flags.carry = x.testBit (8 * count - 1) ∧
      Passed hl count (hl + UInt16.ofNat count) machine rotated) ∧
    (restored.2.bus = machine.bus ∧ restored.2.cpu.flags.carry = machine.cpu.flags.carry ∧
      Passed hl count hl machine restored) ∧
    (doubled.2.bus.number hl count = 2 * x % 256 ^ count ∧
      doubled.2.cpu.flags.carry = x.testBit (8 * count - 1) ∧
      Passed hl count (hl + UInt16.ofNat count) machine doubled) ∧
    ((halved .rightLogical).2.bus.number hl count = x / 2 ∧
      (halved .rightLogical).2.cpu.flags.carry = x.testBit 0 ∧
      Passed hl count hl top (halved .rightLogical)) ∧
    (((halved .rightArithmetic).2.bus.number hl count : Int).bmod (256 ^ count) =
        (x : Int).bmod (256 ^ count) / 2 ∧
      (halved .rightArithmetic).2.cpu.flags.carry = x.testBit 0 ∧
      Passed hl count hl top (halved .rightArithmetic)) := by
  intro hl x top ran up down rotated restored doubled halved
  obtain ⟨last, rfl⟩ : ∃ last, count = last + 1 := ⟨count - 1, by omega⟩
  have straightUp : ∀ shifts, ∀ instruction ∈ Instruction.upwards shifts, instruction.Straight :=
    Instruction.straight_upwards
  have straightBoth : ∀ instruction ∈ up ++ down, instruction.Straight := fun instruction member =>
    (List.mem_append.mp member).elim (straightUp _ instruction)
      (Instruction.straight_downwards _ instruction)
  have straightHalf (first : Shift) : ∀ instruction ∈ .shift first (.indirect .hl) ::
      Instruction.downwards (List.replicate last (.rotate .right)), instruction.Straight :=
    List.forall_mem_cons.mpr ⟨Instruction.straight_shift 6 first, Instruction.straight_downwards _⟩
  have place : top.cpu.getWord .hl = hl + UInt16.ofNat last :=
    Cpu.getWord_setWord_self machine.cpu .hl _ (by decide)
  have rotates : Doubles hl (last + 1) machine.cpu.flags.carry machine rotated.2 := by
    rw [Instruction.snd_applyAll_commands (straightUp _)]
    exact doubles_rotations few rfl
  have doubles : Doubles hl (last + 1) false machine doubled.2 := by
    rw [Instruction.snd_applyAll_commands (straightUp _)]
    exact doubles_pass few rfl rfl
  have ranHalf (first : Shift) : (halved first).2 = _ :=
    Instruction.snd_applyAll_commands (straightHalf first) top pc length
  have halves : Halves hl (last + 1) false top (halved .rightLogical).2 := by
    rw [ranHalf]
    exact halves_of_top few place rfl
  have signed : Halves hl (last + 1) (128 ≤ machine.bus.read (hl + UInt16.ofNat last)) top
      (halved .rightArithmetic).2 := by
    rw [ranHalf]
    exact halves_of_top few place rfl
  have back := restores few (rfl : machine.cpu.getWord .hl = hl)
  rw [← Instruction.snd_applyAll_commands straightBoth machine pc length] at back
  obtain ⟨memory, carry, reshaped⟩ := back
  obtain ⟨sum, leavesTop⟩ := rotates.remainder some
  obtain ⟨double, leavesTopToo⟩ := doubles.remainder some
  have leavesBottom := halves.carry_eq some
  have half := signed.signed some (decide_eq_true_iff.trans (top_bit machine.bus hl last))
  have leavesBottomToo := signed.carry_eq some
  have proceedsUp (shifts : List Shift) :=
    Instruction.proceeds_commands (straightUp shifts) machine pc length
  have proceedsBoth := Instruction.proceeds_commands straightBoth machine pc length
  have proceedsHalf (first : Shift) :=
    Instruction.proceeds_commands (straightHalf first) top pc length
  exact ⟨⟨sum, leavesTop, proceedsUp _, rotates.reshaped⟩,
    ⟨memory, carry, proceedsBoth, reshaped⟩,
    ⟨double, leavesTopToo, proceedsUp _, doubles.reshaped⟩,
    ⟨halves.quotient, leavesBottom, proceedsHalf _, halves.reshaped⟩,
    half, leavesBottomToo, proceedsHalf _, signed.reshaped⟩

-- The number 0x8001, or -32767 as one with a sign, goes around at the top of memory.
def negative : Machine Memory where
  cpu := { h := 0xff, l := 0xff, flags := { carry := true } }
  bus := (Memory.zero.write 0xffff 0x01).write 0 0x80

theorem shifts_through_carry_negative :
    1 ≤ 2 ∧ 2 ≤ 65536 ∧
    let top := { negative with cpu := negative.cpu.setWord .hl 0 }
    let ran (machine : Machine Memory) (instructions : List Instruction) := (machine.applyAll
      (Instruction.commands (fun i => 0x0150 + UInt16.ofNat i) (fun _ => 1) instructions)).2
    let up := Instruction.upwards [.rotate .left, .rotate .left]
    let down := Instruction.downwards [.rotate .right, .rotate .right]
    let halved (first : Shift) :=
      ran top (.shift first (.indirect .hl) :: Instruction.downwards [.rotate .right])
    (ran negative up).bus.number 0xffff 2 = 0x0003 ∧ (ran negative up).cpu.flags.carry = true ∧
      (ran negative (up ++ down)).bus = negative.bus ∧
      (halved .rightLogical).bus.number 0xffff 2 = 0x4000 ∧
      ((halved .rightArithmetic).bus.number 0xffff 2 : Int).bmod (256 ^ 2) = -16384 ∧
      (halved .rightArithmetic).cpu.flags.carry = true := by
  have hl : negative.cpu.getWord .hl = 0xffff := by decide
  have word : negative.bus.readWord 0xffff = 0x8001 := by
    simp [negative, Memory.readWord, Memory.read_write]
    decide
  have x : negative.bus.number 0xffff 2 = 0x8001 := by rw [Memory.number_two, word]; rfl
  have carry : negative.cpu.flags.carry.toNat = 1 := rfl
  have passes := @shifts_through_carry negative 2 (by decide) (by decide)
    (fun i => 0x0150 + UInt16.ofNat i) (fun _ => 1)
  simp only [hl, x, carry] at passes
  obtain ⟨⟨rotated, left, -⟩, ⟨restored, -⟩, -, ⟨halved, -⟩, signed, right, -⟩ := passes
  exact ⟨by decide, by decide, rotated, left, restored, halved, signed, right⟩

end Machine

end Sm83
