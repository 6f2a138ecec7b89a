set_option autoImplicit false

namespace Sm83.Hex

def digits : Nat → Nat → List Char
  | 0, _ => []
  | width + 1, n => digits width (n / 16) ++ [Nat.digitChar (n % 16)]

@[simp] theorem length_digits (width n : Nat) : (digits width n).length = width := by
  induction width generalizing n with
  | zero => rfl
  | succ width ih => simp [digits, ih]

theorem digitChar_inj {m n : Nat} (hm : m < 16) (hn : n < 16)
    (h : Nat.digitChar m = Nat.digitChar n) : m = n := by
  have all : ∀ m, m < 16 → ∀ n, n < 16 → Nat.digitChar m = Nat.digitChar n → m = n := by decide
  exact all m hm n hn h

theorem digits_inj {width m n : Nat} (hm : m < Nat.pow 16 width) (hn : n < Nat.pow 16 width)
    (h : digits width m = digits width n) : m = n := by
  induction width generalizing m n with
  | zero =>
    have one : Nat.pow 16 0 = 1 := rfl
    omega
  | succ width ih =>
    simp only [digits] at h
    have parts := List.append_inj h (by simp)
    have lower := digitChar_inj (by omega) (by omega) (List.cons.inj parts.2).1
    have more : Nat.pow 16 (width + 1) = Nat.pow 16 width * 16 := rfl
    have upper := ih (by omega) (by omega) parts.1
    omega

def byte (b : UInt8) : String :=
  String.ofList ('0' :: 'x' :: digits 2 b.toNat)

def word (w : UInt16) : String :=
  String.ofList ('0' :: 'x' :: digits 4 w.toNat)

end Sm83.Hex
