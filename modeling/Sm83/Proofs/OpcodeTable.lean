import Sm83.Proofs.Footprint.Instruction
import Sm83.Step

set_option autoImplicit false

namespace Sm83

theorem forall_opcode {p : UInt8 → Prop} (all : ∀ n : Fin 256, p (UInt8.ofNat n))
    (opcode : UInt8) : p opcode := by
  simpa using all ⟨opcode.toNat, opcode.toNat_lt⟩

def unknownOpcodes : List UInt8 :=
  [0x10, 0x27, 0xd3, 0xdb, 0xdd, 0xe3, 0xe4, 0xeb, 0xec, 0xed, 0xf4, 0xfc, 0xfd]

theorem decode_eq_none_iff (opcode : UInt8) :
    decode opcode = none ↔ opcode = 0xcb ∨ opcode ∈ unknownOpcodes := by
  revert opcode
  exact forall_opcode (by decide +kernel)

inductive Encodes : List UInt8 → Entry → Prop where
  | single {opcode : UInt8} {entry : Entry} (known : decode opcode = some entry) :
      Encodes [opcode] entry
  | extended (opcode : UInt8) : Encodes [0xcb, opcode] (decodeExtended opcode)

-- What is true of each entry and its first opcode byte, the whole table says.
theorem Encodes.of_table (p : UInt8 → Entry → Prop)
    (single : ∀ n : Fin 256, ∀ entry ∈ decode (UInt8.ofNat n), p (UInt8.ofNat n) entry)
    (extended : ∀ n : Fin 256, p 0xcb (decodeExtended (UInt8.ofNat n))) {opcodes : List UInt8}
    {entry : Entry} (encodes : Encodes opcodes entry) : p (opcodes.headD 0) entry := by
  cases encodes with
  | @single opcode _ known =>
    have all : ∀ opcode : UInt8, ∀ entry ∈ decode opcode, p opcode entry := forall_opcode single
    exact all opcode entry known
  | extended opcode =>
    have all : ∀ opcode : UInt8, p 0xcb (decodeExtended opcode) := forall_opcode extended
    exact all opcode

theorem Encodes.not_mem_unknownOpcodes {opcode : UInt8} {rest : List UInt8} {entry : Entry}
    (encodes : Encodes (opcode :: rest) entry) : opcode ∉ unknownOpcodes := by
  cases encodes with
  | single known =>
    intro unknown
    rw [(decode_eq_none_iff opcode).mpr (.inr unknown)] at known
    cases known
  | extended => decide

namespace Entry

structure Sound (opcodes : Nat) (entry : Entry) : Prop where
  orderly : entry.instruction.orderly
  length : entry.length = opcodes + entry.instruction.immediateLength
  begun : opcodes ≤ entry.cycles
  covered : entry.length + entry.instruction.dataCount ≤
    entry.cost entry.instruction.condition.isSome
  bounded : entry.takenCycles ≤ 6

instance (opcodes : Nat) (entry : Entry) : Decidable (entry.Sound opcodes) :=
  decidable_of_iff
    (entry.instruction.orderly ∧ entry.length = opcodes + entry.instruction.immediateLength ∧
      opcodes ≤ entry.cycles ∧ entry.length + entry.instruction.dataCount ≤
        entry.cost entry.instruction.condition.isSome ∧ entry.takenCycles ≤ 6)
    ⟨fun ⟨orderly, length, begun, covered, bounded⟩ => ⟨orderly, length, begun, covered, bounded⟩,
      fun ⟨orderly, length, begun, covered, bounded⟩ => ⟨orderly, length, begun, covered, bounded⟩⟩

theorem cycles_le_cost (entry : Entry) (taken : Bool) : entry.cycles ≤ entry.cost taken := by
  cases taken with
  | true => exact Nat.le_add_right _ _
  | false => exact Nat.le_refl _

theorem cost_le_takenCycles (entry : Entry) (taken : Bool) :
    entry.cost taken ≤ entry.takenCycles := by
  cases taken with
  | true => exact Nat.le_refl _
  | false => exact Nat.le_add_right _ _

end Entry

theorem decode_sound (opcode : UInt8) : ∀ entry ∈ decode opcode, entry.Sound 1 := by
  revert opcode
  exact forall_opcode (by decide +kernel)

theorem decodeExtended_sound (opcode : UInt8) : (decodeExtended opcode).Sound 2 := by
  revert opcode
  exact forall_opcode (by decide +kernel)

theorem Encodes.sound {opcodes : List UInt8} {entry : Entry} (encodes : Encodes opcodes entry) :
    entry.Sound opcodes.length := by
  cases encodes with
  | single known => exact decode_sound _ _ known
  | extended opcode => exact decodeExtended_sound opcode

end Sm83
