import Mathlib.Algebra.Group.Int.Defs
import Mathlib.Algebra.Group.Nat.Defs
import Sm83.Adder

set_option autoImplicit false

namespace Sm83

section Digits

variable {α : Type} [FixedWidth α]

theorem eq_of_total_eq {a b : α} {carry other : Bool}
    (same : FixedWidth.toNat a + FixedWidth.modulus α * carry.toNat =
      FixedWidth.toNat b + FixedWidth.modulus α * other.toNat) : (a, carry) = (b, other) := by
  have fits := FixedWidth.toNat_lt a
  have otherFits := FixedWidth.toNat_lt b
  have carries : carry = other := by
    cases carry <;> cases other <;>
      simp only [Bool.toNat_false, Bool.toNat_true, Nat.mul_zero, Nat.mul_one, Nat.add_zero] at same
    next => rfl
    next => omega
    next => omega
    next => rfl
  subst carries
  have value : FixedWidth.toNat a = FixedWidth.toNat b := Nat.add_right_cancel same
  rw [← FixedWidth.ofNat_toNat a, value, FixedWidth.ofNat_toNat]

theorem subBorrow_addCarry (lhs rhs : α) (carry : Bool) :
    subBorrow (addCarry lhs rhs carry).1 rhs carry = (lhs, (addCarry lhs rhs carry).2) := by
  let sum := addCarry lhs rhs carry
  let back := subBorrow sum.1 rhs carry
  have added : FixedWidth.toNat sum.1 + FixedWidth.modulus α * sum.2.toNat =
      FixedWidth.toNat lhs + FixedWidth.toNat rhs + carry.toNat := toNat_addCarry lhs rhs carry
  have taken : FixedWidth.toNat back.1 + FixedWidth.toNat rhs + carry.toNat =
      FixedWidth.toNat sum.1 + FixedWidth.modulus α * back.2.toNat :=
    toNat_subBorrow sum.1 rhs carry
  have total : FixedWidth.toNat back.1 + FixedWidth.modulus α * sum.2.toNat =
      FixedWidth.toNat lhs + FixedWidth.modulus α * back.2.toNat := by omega
  obtain ⟨value, carries⟩ := Prod.mk.inj (eq_of_total_eq total)
  exact Prod.ext value carries.symm

theorem addCarry_subBorrow (lhs rhs : α) (borrow : Bool) :
    addCarry (subBorrow lhs rhs borrow).1 rhs borrow = (lhs, (subBorrow lhs rhs borrow).2) := by
  let difference := subBorrow lhs rhs borrow
  let back := addCarry difference.1 rhs borrow
  have taken : FixedWidth.toNat difference.1 + FixedWidth.toNat rhs + borrow.toNat =
      FixedWidth.toNat lhs + FixedWidth.modulus α * difference.2.toNat :=
    toNat_subBorrow lhs rhs borrow
  have added : FixedWidth.toNat back.1 + FixedWidth.modulus α * back.2.toNat =
      FixedWidth.toNat difference.1 + FixedWidth.toNat rhs + borrow.toNat :=
    toNat_addCarry difference.1 rhs borrow
  have total : FixedWidth.toNat back.1 + FixedWidth.modulus α * back.2.toNat =
      FixedWidth.toNat lhs + FixedWidth.modulus α * difference.2.toNat := added.trans taken
  exact eq_of_total_eq total

theorem toNat_or {first second : Bool} (once : (first && second) = false) :
    (first || second).toNat = first.toNat + second.toNat := by
  cases first <;> cases second <;> simp_all

section Stages

variable (wide : 2 ≤ FixedWidth.modulus α) (lhs rhs : α) (carry : Bool)
include wide

theorem toNat_carry : FixedWidth.toNat (FixedWidth.ofNat carry.toNat : α) = carry.toNat := by
  have one := carry.toNat_le
  rw [FixedWidth.toNat_ofNat, Nat.mod_eq_of_lt (by omega)]

-- The carry can be added to the sum of the operands. A sum that has passed the top of the range is
-- too far below it to pass it again.
theorem addCarry_in_stages :
    let first := addCarry lhs rhs false
    let second := addCarry first.1 (FixedWidth.ofNat carry.toNat) false
    (first.2 && second.2) = false ∧ addCarry lhs rhs carry = (second.1, first.2 || second.2) := by
  intro first second
  have one := carry.toNat_le
  have left := FixedWidth.toNat_lt lhs
  have right := FixedWidth.toNat_lt rhs
  have operands : FixedWidth.toNat first.1 + FixedWidth.modulus α * first.2.toNat =
      FixedWidth.toNat lhs + FixedWidth.toNat rhs := toNat_addCarry lhs rhs false
  have more : FixedWidth.toNat second.1 + FixedWidth.modulus α * second.2.toNat =
      FixedWidth.toNat first.1 + carry.toNat := by
    rw [← toNat_carry wide carry]
    exact toNat_addCarry first.1 (FixedWidth.ofNat carry.toNat) false
  have once : (first.2 && second.2) = false := by
    cases top : first.2 <;> cases again : second.2 <;>
      simp only [top, again, Bool.toNat_true, Bool.toNat_false] at operands more
    next => rfl
    next => rfl
    next => rfl
    next => omega
  have whole := toNat_addCarry lhs rhs carry
  have total : FixedWidth.toNat (addCarry lhs rhs carry).1 +
      FixedWidth.modulus α * (addCarry lhs rhs carry).2.toNat =
        FixedWidth.toNat second.1 + FixedWidth.modulus α * (first.2 || second.2).toNat := by
    rw [toNat_or once, Nat.mul_add]
    omega
  exact ⟨once, eq_of_total_eq total⟩

theorem subBorrow_in_stages :
    let first := subBorrow lhs rhs false
    let second := subBorrow first.1 (FixedWidth.ofNat carry.toNat) false
    (first.2 && second.2) = false ∧ subBorrow lhs rhs carry = (second.1, first.2 || second.2) := by
  intro first second
  have one := carry.toNat_le
  have left := FixedWidth.toNat_lt lhs
  have right := FixedWidth.toNat_lt rhs
  have operands : FixedWidth.toNat first.1 + FixedWidth.toNat rhs =
      FixedWidth.toNat lhs + FixedWidth.modulus α * first.2.toNat := toNat_subBorrow lhs rhs false
  have more : FixedWidth.toNat second.1 + carry.toNat =
      FixedWidth.toNat first.1 + FixedWidth.modulus α * second.2.toNat := by
    rw [← toNat_carry wide carry]
    exact toNat_subBorrow first.1 (FixedWidth.ofNat carry.toNat) false
  have fits := FixedWidth.toNat_lt second.1
  have once : (first.2 && second.2) = false := by
    cases below : first.2 <;> cases again : second.2 <;>
      simp only [below, again, Bool.toNat_true, Bool.toNat_false] at operands more
    next => rfl
    next => rfl
    next => rfl
    next => omega
  have whole := toNat_subBorrow lhs rhs carry
  have total : FixedWidth.toNat second.1 +
      FixedWidth.modulus α * (subBorrow lhs rhs carry).2.toNat =
        FixedWidth.toNat (subBorrow lhs rhs carry).1 +
          FixedWidth.modulus α * (first.2 || second.2).toNat := by
    rw [toNat_or once, Nat.mul_add]
    omega
  obtain ⟨value, borrows⟩ := Prod.mk.inj (eq_of_total_eq total)
  exact ⟨once, Prod.ext value.symm borrows⟩

end Stages

structure ExactSums (width : Nat) (lhs rhs : α) (carry : Bool) : Prop where
  sum_lt : FixedWidth.toNat (addCarry lhs rhs carry).1 < 2 ^ width
  sum : FixedWidth.toNat (addCarry lhs rhs carry).1 +
      2 ^ width * (addCarry lhs rhs carry).2.toNat =
    FixedWidth.toNat lhs + FixedWidth.toNat rhs + carry.toNat
  difference_lt : FixedWidth.toNat (subBorrow lhs rhs carry).1 < 2 ^ width
  difference : (FixedWidth.toNat (subBorrow lhs rhs carry).1 : Int) -
      2 ^ width * (subBorrow lhs rhs carry).2.toNat =
    FixedWidth.toNat lhs - FixedWidth.toNat rhs - carry.toNat
  taken_back : subBorrow (addCarry lhs rhs carry).1 rhs carry = (lhs, (addCarry lhs rhs carry).2)
  added_back : addCarry (subBorrow lhs rhs carry).1 rhs carry = (lhs, (subBorrow lhs rhs carry).2)
  -- The carry may come last: it is set if it is set by one of two sums, and never by both.
  sum_in_stages :
    let first := addCarry lhs rhs false
    let second := addCarry first.1 (FixedWidth.ofNat carry.toNat) false
    (first.2 && second.2) = false ∧ addCarry lhs rhs carry = (second.1, first.2 || second.2)
  difference_in_stages :
    let first := subBorrow lhs rhs false
    let second := subBorrow first.1 (FixedWidth.ofNat carry.toNat) false
    (first.2 && second.2) = false ∧ subBorrow lhs rhs carry = (second.1, first.2 || second.2)

theorem exactSums_of_modulus {width : Nat} (modulus : FixedWidth.modulus α = 2 ^ width)
    (wide : 2 ≤ FixedWidth.modulus α) (lhs rhs : α) (carry : Bool) :
    ExactSums width lhs rhs carry where
  sum_lt := modulus ▸ FixedWidth.toNat_lt _
  sum := modulus ▸ toNat_addCarry lhs rhs carry
  difference_lt := modulus ▸ FixedWidth.toNat_lt _
  difference := by
    have total := Int.ofNat_inj.mpr (modulus ▸ toNat_subBorrow lhs rhs carry)
    push_cast at total
    omega
  taken_back := subBorrow_addCarry lhs rhs carry
  added_back := addCarry_subBorrow lhs rhs carry
  sum_in_stages := addCarry_in_stages wide lhs rhs carry
  difference_in_stages := subBorrow_in_stages wide lhs rhs carry

end Digits

/-- For bytes and for words, sums and differences with their carry are exact, and a sum less one of
its operands, with the carry that went in, is the other one. -/
theorem sums_and_differences_exact :
    (∀ (lhs rhs : UInt8) (carry : Bool), ExactSums 8 lhs rhs carry) ∧
      ∀ (lhs rhs : UInt16) (carry : Bool), ExactSums 16 lhs rhs carry :=
  ⟨exactSums_of_modulus rfl (by decide), exactSums_of_modulus rfl (by decide)⟩

example : subBorrow (0 : UInt16) 0xffff true = (0, true) := by decide

end Sm83
