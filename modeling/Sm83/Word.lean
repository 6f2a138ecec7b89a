set_option autoImplicit false

namespace Sm83

def word (high low : UInt8) : UInt16 :=
  high.toUInt16 * 256 + low.toUInt16

def highByte (w : UInt16) : UInt8 :=
  (w / 256).toUInt8

def lowByte (w : UInt16) : UInt8 :=
  w.toUInt8

theorem toNat_word (high low : UInt8) :
    (word high low).toNat = high.toNat * 256 + low.toNat := by
  have hh := high.toNat_lt
  have hl := low.toNat_lt
  simp [word]
  omega

theorem toNat_highByte (w : UInt16) : (highByte w).toNat = w.toNat / 256 := by
  have hw := w.toNat_lt
  simp [highByte]
  omega

theorem toNat_lowByte (w : UInt16) : (lowByte w).toNat = w.toNat % 256 := by
  simp [lowByte]

@[simp] theorem highByte_word (high low : UInt8) : highByte (word high low) = high := by
  have hl := low.toNat_lt
  apply UInt8.toNat_inj.mp
  rw [toNat_highByte, toNat_word]
  omega

@[simp] theorem lowByte_word (high low : UInt8) : lowByte (word high low) = low := by
  have hl := low.toNat_lt
  apply UInt8.toNat_inj.mp
  rw [toNat_lowByte, toNat_word]
  omega

@[simp] theorem word_highByte_lowByte (w : UInt16) : word (highByte w) (lowByte w) = w := by
  apply UInt16.toNat_inj.mp
  rw [toNat_word, toNat_highByte, toNat_lowByte]
  omega

theorem highByte_and (v w : UInt16) : highByte (v &&& w) = highByte v &&& highByte w := by
  apply UInt8.toNat_inj.mp
  rw [UInt8.toNat_and, toNat_highByte, toNat_highByte, toNat_highByte, UInt16.toNat_and]
  exact Nat.and_div_two_pow (n := 8)

theorem lowByte_and (v w : UInt16) : lowByte (v &&& w) = lowByte v &&& lowByte w := by
  apply UInt8.toNat_inj.mp
  rw [UInt8.toNat_and, toNat_lowByte, toNat_lowByte, toNat_lowByte, UInt16.toNat_and]
  exact Nat.and_mod_two_pow (n := 8)

theorem add_ofNat_succ (w : UInt16) (n : Nat) :
    w + UInt16.ofNat (n + 1) = w + 1 + UInt16.ofNat n := by
  rw [Nat.add_comm, UInt16.ofNat_add, UInt16.add_assoc]
  rfl

def signExtend (b : UInt8) : UInt16 :=
  if b < 128 then b.toUInt16 else b.toUInt16 - 256

inductive Direction where
  | up
  | down
  deriving DecidableEq, Repr

def Direction.byte : Direction → UInt8 → UInt8
  | .up, b => b + 1
  | .down, b => b - 1

def Direction.word : Direction → UInt16 → UInt16
  | .up, w => w + 1
  | .down, w => w - 1

def ripple : Direction → UInt8 → UInt8 → UInt8 × UInt8
  | .up, high, low => (if low = 255 then high + 1 else high, low + 1)
  | .down, high, low => (if low = 0 then high - 1 else high, low - 1)

theorem word_ripple (d : Direction) (high low : UInt8) :
    word (ripple d high low).1 (ripple d high low).2 = d.word (word high low) := by
  have hh := high.toNat_lt
  have hl := low.toNat_lt
  apply UInt16.toNat_inj.mp
  rw [toNat_word]
  cases d with
  | up =>
    by_cases wraps : low = 255
    next =>
      subst wraps
      simp [ripple, Direction.word, UInt8.toNat_add, UInt16.toNat_add, toNat_word]
      omega
    next =>
      have below : low.toNat ≠ 255 := fun h => wraps (UInt8.toNat_inj.mp h)
      simp [ripple, Direction.word, wraps, UInt8.toNat_add, UInt16.toNat_add, toNat_word]
      omega
  | down =>
    by_cases wraps : low = 0
    next =>
      subst wraps
      simp [ripple, Direction.word, UInt8.toNat_sub, UInt16.toNat_sub, toNat_word]
      omega
    next =>
      have above : low.toNat ≠ 0 := fun h => wraps (UInt8.toNat_inj.mp h)
      simp [ripple, Direction.word, wraps, UInt8.toNat_sub, UInt16.toNat_sub, toNat_word]
      omega

end Sm83
