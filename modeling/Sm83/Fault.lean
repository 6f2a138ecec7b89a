import Sm83.Text.Hex

set_option autoImplicit false

namespace Sm83

inductive Fault where
  -- For an extended opcode it is the byte after `0xcb`.
  | unknownOpcode (opcode : UInt8) (pc : UInt16) (extended : Bool)
  | programTooLarge (address : UInt16) (length : Nat)
  | immediateWrite
  | subtractOverflow
  | negateOverflow
  deriving DecidableEq, Repr

namespace Fault

def message : Fault → String
  | unknownOpcode opcode pc false =>
    "Unimplemented opcode " ++ Hex.byte opcode ++ " at " ++ Hex.word pc
  | unknownOpcode opcode pc true =>
    "Unimplemented opcode 0xcb " ++ Hex.byte opcode ++ " at " ++ Hex.word pc
  | programTooLarge address length =>
    "Program of " ++ toString length ++ " bytes does not fit at " ++ Hex.word address
  | immediateWrite => "immediate operand is not writable"
  | subtractOverflow => "attempt to subtract with overflow"
  | negateOverflow => "attempt to negate with overflow"

-- These end the program on the spot; the others are handed to the caller.
def panics : Fault → Bool
  | immediateWrite | subtractOverflow | negateOverflow => true
  | unknownOpcode .. | programTooLarge .. => false

end Fault

def InWord32 (count : Int) : Prop :=
  Int32.minValue.toInt ≤ count ∧ count ≤ Int32.maxValue.toInt

instance (count : Int) : Decidable (InWord32 count) := inferInstanceAs (Decidable (_ ∧ _))

theorem inWord32_iff {count : Int} :
    InWord32 count ↔ -2147483648 ≤ count ∧ count ≤ 2147483647 :=
  Iff.rfl

theorem inWord32_bmod (count : Int) : InWord32 (count.bmod Int32.size) := by
  have low := Int.le_bmod (x := count) (m := Int32.size) (by decide)
  have high := Int.bmod_lt (x := count) (m := Int32.size) (by decide)
  rw [Int32.size] at low high ⊢
  rw [inWord32_iff]
  omega

-- What a program is built to do when a number of cycles leaves its 32 bits.
inductive Overflow where
  | wraps
  | traps
  deriving DecidableEq, Repr

namespace Overflow

def keep (overflow : Overflow) (fault : Fault) (count : Int) : Except Fault Int :=
  if InWord32 count then .ok count
  else
    match overflow with
    | wraps => .ok (count.bmod Int32.size)
    | traps => .error fault

variable (overflow : Overflow) (fault : Fault) {count : Int}

theorem keep_of_fits (fits : InWord32 count) : overflow.keep fault count = .ok count :=
  if_pos fits

theorem keep_of_wraps (exceeds : ¬ InWord32 count) :
    wraps.keep fault count = .ok (count.bmod Int32.size) :=
  if_neg exceeds

theorem keep_of_traps (exceeds : ¬ InWord32 count) : traps.keep fault count = .error fault :=
  if_neg exceeds

theorem keep_eq_ok_iff : overflow.keep fault count = .ok count ↔ InWord32 count := by
  refine ⟨fun kept => Decidable.byContradiction fun exceeds => ?_, overflow.keep_of_fits fault⟩
  cases overflow with
  | wraps =>
    rw [keep_of_wraps fault exceeds, Except.ok.injEq] at kept
    exact exceeds (kept ▸ inWord32_bmod count)
  | traps =>
    rw [keep_of_traps fault exceeds] at kept
    cases kept

end Overflow

end Sm83
