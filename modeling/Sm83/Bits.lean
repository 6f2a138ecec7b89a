set_option autoImplicit false

namespace Sm83

def bit (b : UInt8) (index : Fin 8) : Bool :=
  b.toNat.testBit index

def mask (index : Fin 8) : UInt8 :=
  1 <<< UInt8.ofNat index

def setBit (b : UInt8) (index : Fin 8) (value : Bool) : UInt8 :=
  if value then b ||| mask index else b &&& ~~~(mask index)

theorem toBitVec_mask (index : Fin 8) : (mask index).toBitVec = BitVec.twoPow 8 index := by
  revert index
  decide

theorem bit_eq_getLsbD (b : UInt8) (index : Fin 8) : bit b index = b.toBitVec.getLsbD index := rfl

theorem bit_setBit (b : UInt8) (index other : Fin 8) (value : Bool) :
    bit (setBit b index value) other = if other = index then value else bit b other := by
  have within := other.isLt
  cases value <;> by_cases same : other = index <;>
    simp_all [bit_eq_getLsbD, setBit, toBitVec_mask, Fin.ext_iff, eq_comm]

def shiftLeft (b : UInt8) (entering : Bool) : UInt8 × Bool :=
  (b * 2 + (if entering then 1 else 0), 128 ≤ b)

def shiftRight (b : UInt8) (entering : Bool) : UInt8 × Bool :=
  (b / 2 + (if entering then 128 else 0), b % 2 = 1)

theorem toNat_shiftLeft (b : UInt8) (entering : Bool) :
    (shiftLeft b entering).1.toNat + 256 * (shiftLeft b entering).2.toNat =
      2 * b.toNat + entering.toNat := by
  have hb := b.toNat_lt
  have top : (128 ≤ b) = (128 ≤ b.toNat) := by simp [UInt8.le_iff_toNat_le]
  by_cases leaves : 128 ≤ b.toNat <;> cases entering <;>
    simp [shiftLeft, top, leaves, UInt8.toNat_add, UInt8.toNat_mul] <;> omega

theorem toNat_shiftRight (b : UInt8) (entering : Bool) :
    2 * (shiftRight b entering).1.toNat + (shiftRight b entering).2.toNat =
      b.toNat + 256 * entering.toNat := by
  have hb := b.toNat_lt
  have bottom : (b % 2 = 1) = (b.toNat % 2 = 1) := by simp [← UInt8.toNat_inj]
  by_cases leaves : b.toNat % 2 = 1 <;> cases entering <;>
    simp [shiftRight, bottom, leaves, UInt8.toNat_add] <;> omega

inductive Rotation where
  | leftCircular
  | rightCircular
  | left
  | right
  deriving DecidableEq, Repr

def Rotation.apply : Rotation → UInt8 → Bool → UInt8 × Bool
  | .leftCircular, b, _ => shiftLeft b (128 ≤ b)
  | .rightCircular, b, _ => shiftRight b (b % 2 = 1)
  | .left, b, carry => shiftLeft b carry
  | .right, b, carry => shiftRight b carry

inductive Shift where
  | rotate (rotation : Rotation)
  | leftArithmetic
  | rightArithmetic
  | rightLogical
  | swap
  deriving DecidableEq, Repr

def Shift.apply : Shift → UInt8 → Bool → UInt8 × Bool
  | .rotate rotation, b, carry => rotation.apply b carry
  | .leftArithmetic, b, _ => shiftLeft b false
  | .rightArithmetic, b, _ => shiftRight b (128 ≤ b)
  | .rightLogical, b, _ => shiftRight b false
  | .swap, b, _ => (b * 16 + b / 16, false)

end Sm83
