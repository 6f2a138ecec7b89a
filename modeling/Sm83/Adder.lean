set_option autoImplicit false

namespace Sm83

class FixedWidth (α : Type) where
  modulus : Nat
  toNat : α → Nat
  ofNat : Nat → α
  toNat_lt : ∀ a, toNat a < modulus
  toNat_ofNat : ∀ n, toNat (ofNat n) = n % modulus
  ofNat_toNat : ∀ a, ofNat (toNat a) = a

instance : FixedWidth UInt8 where
  modulus := 256
  toNat := UInt8.toNat
  ofNat := UInt8.ofNat
  toNat_lt := UInt8.toNat_lt
  toNat_ofNat := by simp
  ofNat_toNat := by simp

instance : FixedWidth UInt16 where
  modulus := 65536
  toNat := UInt16.toNat
  ofNat := UInt16.ofNat
  toNat_lt := UInt16.toNat_lt
  toNat_ofNat := by simp
  ofNat_toNat := by simp

@[inline] def addCarry {α : Type} [FixedWidth α] (lhs rhs : α) (carry : Bool) : α × Bool :=
  let sum := FixedWidth.toNat lhs + FixedWidth.toNat rhs + carry.toNat
  (FixedWidth.ofNat sum, FixedWidth.modulus α ≤ sum)

@[inline] def subBorrow {α : Type} [FixedWidth α] (lhs rhs : α) (borrow : Bool) : α × Bool :=
  let taken := FixedWidth.toNat rhs + borrow.toNat
  (FixedWidth.ofNat (FixedWidth.modulus α + FixedWidth.toNat lhs - taken),
    FixedWidth.toNat lhs < taken)

theorem toNat_addCarry {α : Type} [FixedWidth α] (lhs rhs : α) (carry : Bool) :
    FixedWidth.toNat (addCarry lhs rhs carry).1 +
        FixedWidth.modulus α * (addCarry lhs rhs carry).2.toNat =
      FixedWidth.toNat lhs + FixedWidth.toNat rhs + carry.toNat := by
  have left := FixedWidth.toNat_lt lhs
  have right := FixedWidth.toNat_lt rhs
  have one := carry.toNat_le
  simp only [addCarry, FixedWidth.toNat_ofNat]
  by_cases carries : FixedWidth.modulus α ≤
      FixedWidth.toNat lhs + FixedWidth.toNat rhs + carry.toNat
  next =>
    rw [Nat.mod_eq_sub_mod carries, Nat.mod_eq_of_lt (by omega)]
    simp only [carries, decide_true, Bool.toNat_true]
    omega
  next =>
    rw [Nat.mod_eq_of_lt (by omega)]
    simp [carries]

theorem toNat_subBorrow {α : Type} [FixedWidth α] (lhs rhs : α) (borrow : Bool) :
    FixedWidth.toNat (subBorrow lhs rhs borrow).1 + FixedWidth.toNat rhs + borrow.toNat =
      FixedWidth.toNat lhs + FixedWidth.modulus α * (subBorrow lhs rhs borrow).2.toNat := by
  have left := FixedWidth.toNat_lt lhs
  have right := FixedWidth.toNat_lt rhs
  have one := borrow.toNat_le
  simp only [subBorrow, FixedWidth.toNat_ofNat]
  by_cases borrows : FixedWidth.toNat lhs < FixedWidth.toNat rhs + borrow.toNat
  next =>
    rw [Nat.mod_eq_of_lt (by omega)]
    simp only [borrows, decide_true, Bool.toNat_true]
    omega
  next =>
    rw [Nat.mod_eq_sub_mod (by omega), Nat.mod_eq_of_lt (by omega)]
    simp only [borrows, decide_false, Bool.toNat_false]
    omega

end Sm83
