import Sm83.Execute
import Sm83.Proofs.Accesses

set_option autoImplicit false

namespace Sm83

def readsFrom : UInt16 → List UInt8 → List Access
  | _, [] => []
  | address, value :: rest => .read address value :: readsFrom (address + 1) rest

@[simp] theorem length_readsFrom (address : UInt16) (values : List UInt8) :
    (readsFrom address values).length = values.length := by
  induction values generalizing address with
  | nil => rfl
  | cons value rest ih => simp [readsFrom, ih]

structure Footprint where
  operands : List UInt8 := []
  reads : List (UInt16 × UInt8) := []
  writes : List (UInt16 × UInt8) := []

namespace Footprint

def accesses (footprint : Footprint) (address : UInt16) : List Access :=
  readsFrom address footprint.operands ++
    footprint.reads.map (fun (address, value) => .read address value) ++
    footprint.writes.map (fun (address, value) => .write address value)

def size (footprint : Footprint) : Nat :=
  footprint.operands.length + footprint.reads.length + footprint.writes.length

@[simp] theorem length_accesses (footprint : Footprint) (address : UInt16) :
    (footprint.accesses address).length = footprint.size := by
  simp [accesses, size, Nat.add_assoc]

structure Fits (count : Nat) (reads writes : List UInt8 → List UInt16) (footprint : Footprint) :
    Prop where
  operands : footprint.operands.length = count
  reads : footprint.reads.map Prod.fst = reads footprint.operands
  writes : footprint.writes.map Prod.fst = writes footprint.operands

-- Two footprints follow each other in order if the second has no operands or is the first to
-- access anything at all.
theorem accesses_append (first second : Footprint) (address : UInt16)
    (quiet : first.writes = []) (blind : second.reads = [])
    (ordered : second.operands = [] ∨ first.operands = [] ∧ first.reads = []) :
    first.accesses address ++ second.accesses address =
      (mk (first.operands ++ second.operands) first.reads second.writes).accesses address := by
  rcases ordered with none | ⟨none, unread⟩
  · simp [accesses, quiet, blind, none, readsFrom]
  · simp [accesses, quiet, blind, none, unread, readsFrom]

end Footprint

def operandByte (operands : List UInt8) : UInt8 :=
  operands.getD 0 0

def operandWord (operands : List UInt8) : UInt16 :=
  word (operands.getD 1 0) (operands.getD 0 0)

namespace Microcode

variable {α γ : Type}

def Leaves (code : Microcode α) (address : UInt16) (fits : Footprint → Prop)
    (result : α → Prop) : Prop :=
  code.Ensures fun accesses ending => ∃ value footprint,
    ending = .ok value ∧ result value ∧ fits footprint ∧ accesses = footprint.accesses address

theorem Leaves.done_bind {code : Microcode α} {address : UInt16} {fits : Footprint → Prop}
    {result : α → Prop} {f : α → γ} {final : γ → Prop} (leaves : code.Leaves address fits result)
    (maps : ∀ value, result value → final (f value)) :
    (code.bind fun value => done (f value)).Leaves address fits final := by
  apply Ensures.bind leaves
  next =>
    rintro first value ⟨_, footprint, ⟨⟩, holds, fitting, rfl⟩
    exact ⟨f value, footprint, rfl, maps value holds, fitting, by simp⟩
  next =>
    rintro first fault ⟨value, footprint, ⟨⟩, -⟩

end Microcode

open Microcode

namespace ByteOperand

def addresses (cpu : Cpu) : ByteOperand → List UInt8 → List UInt16
  | immediate, _ | register _, _ => []
  | absolute, operands => [operandWord operands]
  | indirect r, _ => [cpu.getWord r]
  | highPage r, _ => [highPageAddress (cpu.getByte r)]
  | highPageImmediate, operands => [highPageAddress (operandByte operands)]

theorem addresses_of_immediateLength_eq_zero {operand : ByteOperand}
    (bare : operand.immediateLength = 0) (cpu : Cpu) (operands : List UInt8) :
    operand.addresses cpu operands = operand.addresses cpu [] := by
  cases operand with
  | immediate | absolute | highPageImmediate => cases bare
  | indirect | register | highPage => rfl

theorem fetch_leaves (operand : ByteOperand) (cpu : Cpu) (pc : UInt16) :
    (operand.fetch cpu pc).Leaves (pc + 1)
      (Footprint.Fits operand.immediateLength (operand.addresses cpu) fun _ => [])
      fun _ => True := by
  cases operand with
  | immediate =>
    intro value
    exact ⟨value, { operands := [value] }, rfl, trivial, ⟨rfl, rfl, rfl⟩, rfl⟩
  | absolute =>
    intro low high value
    exact ⟨value, { operands := [low, high], reads := [(word high low, value)] }, rfl, trivial,
      ⟨rfl, rfl, rfl⟩, rfl⟩
  | indirect r =>
    intro value
    exact ⟨value, { reads := [(cpu.getWord r, value)] }, rfl, trivial, ⟨rfl, rfl, rfl⟩, rfl⟩
  | register r => exact ⟨cpu.getByte r, {}, rfl, trivial, ⟨rfl, rfl, rfl⟩, rfl⟩
  | highPage r =>
    intro value
    exact ⟨value, { reads := [(highPageAddress (cpu.getByte r), value)] }, rfl, trivial,
      ⟨rfl, rfl, rfl⟩, rfl⟩
  | highPageImmediate =>
    intro index value
    exact ⟨value, { operands := [index], reads := [(highPageAddress index, value)] }, rfl, trivial,
      ⟨rfl, rfl, rfl⟩, rfl⟩

theorem store_leaves {operand : ByteOperand} (writable : operand ≠ immediate) (cpu : Cpu)
    (pc : UInt16) (value : UInt8) :
    (operand.store cpu pc value).Leaves (pc + 1)
      (Footprint.Fits operand.immediateLength (fun _ => []) (operand.addresses cpu))
      fun _ => True := by
  cases operand with
  | immediate => exact absurd rfl writable
  | absolute =>
    intro low high
    exact ⟨cpu, { operands := [low, high], writes := [(word high low, value)] }, rfl, trivial,
      ⟨rfl, rfl, rfl⟩, rfl⟩
  | indirect r =>
    exact ⟨cpu, { writes := [(cpu.getWord r, value)] }, rfl, trivial, ⟨rfl, rfl, rfl⟩, rfl⟩
  | register r => exact ⟨cpu.setByte r value, {}, rfl, trivial, ⟨rfl, rfl, rfl⟩, rfl⟩
  | highPage r =>
    exact ⟨cpu, { writes := [(highPageAddress (cpu.getByte r), value)] }, rfl, trivial,
      ⟨rfl, rfl, rfl⟩, rfl⟩
  | highPageImmediate =>
    intro index
    exact ⟨cpu, { operands := [index], writes := [(highPageAddress index, value)] }, rfl, trivial,
      ⟨rfl, rfl, rfl⟩, rfl⟩

end ByteOperand

end Sm83
