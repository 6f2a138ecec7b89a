import Sm83.Proofs.Branches
import Sm83.Proofs.WordSums

set_option autoImplicit false

namespace Sm83

open Microcode hiding perform

def jumpDisplacement (b : UInt8) : Int :=
  if b ≤ 128 then b.toNat else b.toNat - 256

theorem jumpDisplacement_cases (b : UInt8) :
    b.toNat ≤ 128 ∧ jumpDisplacement b = b.toNat ∨
      128 < b.toNat ∧ jumpDisplacement b = b.toNat - 256 := by
  simp only [jumpDisplacement, UInt8.le_iff_toNat_le, UInt8.reduceToNat]
  split <;> omega

theorem jumpDisplacement_bounds (b : UInt8) :
    -127 ≤ jumpDisplacement b ∧ jumpDisplacement b ≤ 128 := by
  have hb := b.toNat_lt
  have either := jumpDisplacement_cases b
  omega

theorem jumpDisplacement_emod (b : UInt8) : jumpDisplacement b % 256 = b.toNat := by
  have hb := b.toNat_lt
  have either := jumpDisplacement_cases b
  omega

theorem jumpDisplacement_injective : Function.Injective jumpDisplacement := by
  intro b c same
  have bytes : (b.toNat : Int) = c.toNat := by
    rw [← jumpDisplacement_emod b, same, jumpDisplacement_emod c]
  exact UInt8.toNat_inj.mp (Int.ofNat_inj.mp bytes)

-- No number in the window is left out: its byte is its remainder.
theorem exists_jumpDisplacement_eq {d : Int} (low : -127 ≤ d) (high : d ≤ 128) :
    ∃ b, jumpDisplacement b = d := by
  let b := UInt8.ofNat (d % 256).toNat
  have value : (b.toNat : Int) = d % 256 := by
    rw [UInt8.toNat_ofNat']
    omega
  have remainder := jumpDisplacement_emod b
  have bounds := jumpDisplacement_bounds b
  exact ⟨b, by omega⟩

theorem jumpDisplacement_eq_signed_iff {b : UInt8} : jumpDisplacement b = signed b ↔ b ≠ 128 := by
  have either := jumpDisplacement_cases b
  have middle : b = 128 ↔ b.toNat = 128 := UInt8.toNat_inj.symm
  rw [Ne, middle]
  simp only [signed, UInt8.lt_iff_toNat_lt, UInt8.reduceToNat]
  split <;> omega

theorem toNat_relativeTarget (pc : UInt16) (b : UInt8) :
    ((relativeTarget pc b).toNat : Int) = (pc.toNat + 2 + jumpDisplacement b) % 65536 := by
  have hb := b.toNat_lt
  have either := jumpDisplacement_cases b
  simp only [relativeTarget, UInt8.lt_iff_toNat_lt, UInt8.reduceToNat]
  split
  next =>
    simp only [UInt16.toNat_add, UInt16.toNat_sub, UInt16.reduceToNat, UInt8.toNat_toUInt16]
    omega
  next =>
    simp only [UInt16.toNat_add, UInt16.reduceToNat, UInt8.toNat_toUInt16]
    omega

theorem relativeTarget_injective (pc : UInt16) : Function.Injective (relativeTarget pc) := by
  intro b c same
  have left := toNat_relativeTarget pc b
  have right := toNat_relativeTarget pc c
  have ofLeft := jumpDisplacement_bounds b
  have ofRight := jumpDisplacement_bounds c
  rw [same] at left
  exact jumpDisplacement_injective (by omega)

theorem exists_relativeTarget_eq_iff {pc address : UInt16} :
    (∃ b, relativeTarget pc b = address) ↔
      ∃ k : Int, -125 ≤ k ∧ k ≤ 130 ∧ (address.toNat : Int) = (pc.toNat + k) % 65536 := by
  constructor
  next =>
    rintro ⟨b, rfl⟩
    have bounds := jumpDisplacement_bounds b
    refine ⟨2 + jumpDisplacement b, by omega, by omega, ?_⟩
    rw [toNat_relativeTarget, Int.add_assoc]
  next =>
    rintro ⟨k, low, high, stands⟩
    obtain ⟨b, displaced⟩ : ∃ b, jumpDisplacement b = k - 2 :=
      exists_jumpDisplacement_eq (by omega) (by omega)
    have target := toNat_relativeTarget pc b
    refine ⟨b, UInt16.toNat_inj.mp (Int.ofNat_inj.mp ?_)⟩
    rw [displaced] at target
    omega

theorem toNat_relativeTarget_eq_signed_iff {pc : UInt16} {b : UInt8} :
    ((relativeTarget pc b).toNat : Int) = (pc.toNat + 2 + signed b) % 65536 ↔ b ≠ 128 := by
  have hb := b.toNat_lt
  have bounds := jumpDisplacement_bounds b
  rw [toNat_relativeTarget, ← jumpDisplacement_eq_signed_iff]
  unfold signed
  split <;> omega

theorem exists_entry_jumpRelative (condition : Option Condition) :
    ∃ entry, decode (Transfer.relative.opcode condition) = some entry ∧
      entry.instruction = .jumpRelative condition ∧ UInt16.ofNat entry.length = 2 ∧
      entry.cost condition.isSome = 3 := by
  cases condition with
  | none => exact Transfer.relative.exists_entry_none
  | some condition =>
    obtain ⟨entry, known, instruction, occupies, taken, -⟩ :=
      Transfer.relative.exists_entry_some condition
    exact ⟨entry, known, instruction, occupies, taken⟩

namespace Machine

section OnBus

variable {β : Type} [Bus β] {condition : Option Condition}

theorem perform_jumpRelative {cpu : Cpu} (made : ∀ c ∈ condition, cpu.flags.holds c = true)
    (pc length : UInt16) (bus : β) (log : Log) :
    let operand := Bus.read bus (pc + 1)
    ((Instruction.jumpRelative condition).execute cpu pc length).perform bus log =
      ⟨.ok { cpu, next := relativeTarget pc operand.1, taken := condition.isSome },
        operand.2, log⟩ := by
  cases condition with
  | none => rfl
  | some condition => exact congrArg (Microcode.perform · bus log) (if_pos (made condition rfl))

theorem apply_execute_jumpRelative {machine : Machine β}
    (made : ∀ c ∈ condition, machine.cpu.flags.holds c = true) (pc length : UInt16) :
    let operand := Bus.read machine.bus (pc + 1)
    machine.apply (.execute (.jumpRelative condition) pc length) =
      (.ok (.executed (relativeTarget pc operand.1) condition.isSome),
        { machine with bus := operand.2 }) := by
  rw [apply_execute, perform_jumpRelative made]

theorem exists_apply_step_jumpRelative {machine : Machine β} {pc : UInt16}
    (made : ∀ c ∈ condition, machine.cpu.flags.holds c = true)
    (running : machine.cpu.halted = false)
    (stands : (Bus.read machine.bus pc).1 = Transfer.relative.opcode condition) (cycles : Int) :
    let operand := Bus.read (Bus.read machine.bus pc).2 (pc + 1)
    let target := relativeTarget pc operand.1
    ∃ log, machine.apply (.step pc cycles) = (.ok (.progress ⟨target, cycles - 3⟩),
      ⟨{ machine.cpu with pc := target }, operand.2, log⟩) := by
  obtain ⟨entry, known, instruction, occupies, cost⟩ := exists_entry_jumpRelative condition
  rw [← stands] at known
  have performed := perform_jumpRelative made pc 2 (Bus.read machine.bus pc).2
  rw [← instruction] at performed
  exact exists_apply_step_on_bus running known occupies performed cost cycles

end OnBus

/-- A relative jump leads to the next instruction and the displacement further, where bytes up to
128 are taken as they are: 256 bytes for 256 addresses, from 125 places before the jump to 130
after it. In two's complement only 128 itself would lead elsewhere. A jump that is made, with or
without a condition, goes there and changes nothing but the program counter. -/
theorem relative_jumps_land (pc : UInt16) :
    (∀ b, ((relativeTarget pc b).toNat : Int) = (pc.toNat + 2 + jumpDisplacement b) % 65536) ∧
    Function.Injective (relativeTarget pc) ∧
    (∀ address, (∃ b, relativeTarget pc b = address) ↔
      ∃ k : Int, -125 ≤ k ∧ k ≤ 130 ∧ (address.toNat : Int) = (pc.toNat + k) % 65536) ∧
    (∀ b, ((relativeTarget pc b).toNat : Int) = (pc.toNat + 2 + signed b) % 65536 ↔ b ≠ 128) ∧
    ∀ {β : Type} [Bus β] (machine : Machine β) (condition : Option Condition),
      (∀ c ∈ condition, machine.cpu.flags.holds c = true) →
      (∀ length,
        let operand := Bus.read machine.bus (pc + 1)
        machine.apply (.execute (.jumpRelative condition) pc length) =
          (.ok (.executed (relativeTarget pc operand.1) condition.isSome),
            { machine with bus := operand.2 })) ∧
      ∀ cycles, machine.cpu.halted = false →
        let opcode := Bus.read machine.bus pc
        let operand := Bus.read opcode.2 (pc + 1)
        let target := relativeTarget pc operand.1
        opcode.1 = Transfer.relative.opcode condition →
        ∃ log, machine.apply (.step pc cycles) = (.ok (.progress ⟨target, cycles - 3⟩),
          ⟨{ machine.cpu with pc := target }, operand.2, log⟩) := by
  refine ⟨toNat_relativeTarget pc, relativeTarget_injective pc,
    fun _ => exists_relativeTarget_eq_iff, fun _ => toNat_relativeTarget_eq_signed_iff, ?_⟩
  intro β _ machine condition made
  constructor
  next => exact apply_execute_jumpRelative made pc
  next =>
    intro cycles running opcode operand target stands
    exact exists_apply_step_jumpRelative made running stands cycles

-- A jump on carry whose two bytes stand at both ends of memory, by the displacement 128.
def leaping : Machine Memory where
  cpu := { a := 0x42, flags := { carry := true }, sp := 0xfffe }
  bus := (Memory.zero.write 0xffff 0x38).write 0x0000 0x80

theorem relative_jumps_land_leaping :
    (∀ c ∈ some Condition.carry, leaping.cpu.flags.holds c = true) ∧
    leaping.apply (.execute (.jumpRelative (some .carry)) 0xffff 2) =
      (.ok (.executed 0x0081 true), leaping) ∧
    leaping.cpu.halted = false ∧
    (Bus.read leaping.bus 0xffff).1 = Transfer.relative.opcode (some .carry) ∧
    ∃ log, leaping.apply (.step 0xffff 7) = (.ok (.progress ⟨0x0081, 4⟩),
      ⟨{ leaping.cpu with pc := 0x0081 }, leaping.bus, log⟩) := by
  have made : ∀ c ∈ some Condition.carry, leaping.cpu.flags.holds c = true := by
    rintro _ ⟨⟩
    rfl
  have stands : (Bus.read leaping.bus 0xffff).1 = Transfer.relative.opcode (some .carry) := by
    simp [leaping, Bus.read, Memory.read_write, Transfer.opcode]
  have displacement : leaping.bus.read (0xffff + 1) = 0x80 := Memory.read_write_self _ _ _
  have target : relativeTarget 0xffff (leaping.bus.read (0xffff + 1)) = 0x0081 := by
    rw [displacement]
    decide
  obtain ⟨-, -, -, -, jumps⟩ := relative_jumps_land 0xffff
  obtain ⟨executed, stepped⟩ := jumps leaping (some .carry) made
  have executed := executed 2
  have stepped := stepped 7 rfl stands
  simp only [Bus.read, target] at executed stepped
  exact ⟨made, executed, rfl, stands, stepped⟩

end Machine

end Sm83
