import Sm83.Word
import Sm83.Bits

set_option autoImplicit false

namespace Sm83

inductive ByteRegister where
  | a | b | c | d | e | h | l
  deriving DecidableEq, Repr

def ByteRegister.all : List ByteRegister :=
  [.a, .b, .c, .d, .e, .h, .l]

theorem ByteRegister.mem_all (r : ByteRegister) : r ∈ ByteRegister.all := by
  cases r <;> decide

inductive WordRegister where
  | af | bc | de | hl | sp | pc
  deriving DecidableEq, Repr

def WordRegister.all : List WordRegister :=
  [.af, .bc, .de, .hl, .sp, .pc]

theorem WordRegister.mem_all (r : WordRegister) : r ∈ WordRegister.all := by
  cases r <;> decide

inductive Condition where
  | notZero | zero | notCarry | carry
  deriving DecidableEq, Repr

structure Flags where
  zero : Bool := false
  carry : Bool := false
  deriving DecidableEq, Repr

namespace Flags

def toByte (flags : Flags) : UInt8 :=
  (if flags.zero then 0x80 else 0) + (if flags.carry then 0x10 else 0)

def ofByte (b : UInt8) : Flags where
  zero := bit b 7
  carry := bit b 4

@[simp] theorem ofByte_toByte (flags : Flags) : ofByte flags.toByte = flags := by
  obtain ⟨zero, carry⟩ := flags
  cases zero <;> cases carry <;> decide

@[simp] theorem toByte_ofByte (b : UInt8) : (ofByte b).toByte = b &&& 0x90 := by
  have all : ∀ n : Fin 256, (ofByte (UInt8.ofNat n)).toByte = UInt8.ofNat n &&& 0x90 := by
    decide +kernel
  simpa using all ⟨b.toNat, b.toNat_lt⟩

def holds (flags : Flags) : Condition → Bool
  | .notZero => !flags.zero
  | .zero => flags.zero
  | .notCarry => !flags.carry
  | .carry => flags.carry

end Flags

@[ext] structure Cpu where
  a : UInt8 := 0
  b : UInt8 := 0
  c : UInt8 := 0
  d : UInt8 := 0
  e : UInt8 := 0
  h : UInt8 := 0
  l : UInt8 := 0
  flags : Flags := {}
  sp : UInt16 := 0
  -- The address of the next instruction, as the last completed operation left it.
  pc : UInt16 := 0
  interruptsEnabled : Bool := false
  halted : Bool := false
  deriving DecidableEq, Repr

namespace Cpu

def getByte (cpu : Cpu) : ByteRegister → UInt8
  | .a => cpu.a
  | .b => cpu.b
  | .c => cpu.c
  | .d => cpu.d
  | .e => cpu.e
  | .h => cpu.h
  | .l => cpu.l

def setByte (cpu : Cpu) (register : ByteRegister) (value : UInt8) : Cpu :=
  match register with
  | .a => { cpu with a := value }
  | .b => { cpu with b := value }
  | .c => { cpu with c := value }
  | .d => { cpu with d := value }
  | .e => { cpu with e := value }
  | .h => { cpu with h := value }
  | .l => { cpu with l := value }

def getWord (cpu : Cpu) : WordRegister → UInt16
  | .af => word cpu.a cpu.flags.toByte
  | .bc => word cpu.b cpu.c
  | .de => word cpu.d cpu.e
  | .hl => word cpu.h cpu.l
  | .sp => cpu.sp
  | .pc => cpu.pc

def setWord (cpu : Cpu) (register : WordRegister) (value : UInt16) : Cpu :=
  match register with
  | .af => { cpu with a := highByte value, flags := Flags.ofByte (lowByte value) }
  | .bc => { cpu with b := highByte value, c := lowByte value }
  | .de => { cpu with d := highByte value, e := lowByte value }
  | .hl => { cpu with h := highByte value, l := lowByte value }
  | .sp => { cpu with sp := value }
  | .pc => { cpu with pc := value }

theorem setWord_setWord (cpu : Cpu) (r : WordRegister) (first second : UInt16) :
    (cpu.setWord r first).setWord r second = cpu.setWord r second := by
  cases r <;> rfl

@[simp] theorem setWord_getWord (cpu : Cpu) (r : WordRegister) :
    cpu.setWord r (cpu.getWord r) = cpu := by
  cases r <;> simp [setWord, getWord]

theorem getWord_setWord_self (cpu : Cpu) (r : WordRegister) (value : UInt16)
    (whole : r ≠ .af) : (cpu.setWord r value).getWord r = value := by
  cases r <;> simp_all [setWord, getWord]

theorem getWord_setWord_af (cpu : Cpu) (value : UInt16) :
    (cpu.setWord .af value).getWord .af =
      word (highByte value) (Flags.ofByte (lowByte value)).toByte := rfl

theorem getWord_setWord (cpu : Cpu) (r : WordRegister) (value : UInt16) :
    (cpu.setWord r value).getWord r = if r = .af then value &&& 0xff90 else value := by
  split
  next flags =>
    have high : highByte 0xff90 = -1 := by decide
    have low : lowByte 0xff90 = 0x90 := by decide
    subst flags
    rw [getWord_setWord_af, Flags.toByte_ofByte, ← word_highByte_lowByte (value &&& 0xff90),
      highByte_and, lowByte_and, high, low, UInt8.and_neg_one]
  next whole => exact getWord_setWord_self cpu r value whole

def stepWord (cpu : Cpu) (direction : Direction) : WordRegister → Cpu
  | .bc =>
    let (high, low) := ripple direction cpu.b cpu.c
    { cpu with b := high, c := low }
  | .de =>
    let (high, low) := ripple direction cpu.d cpu.e
    { cpu with d := high, e := low }
  | .hl =>
    let (high, low) := ripple direction cpu.h cpu.l
    { cpu with h := high, l := low }
  | .af => cpu.setWord .af (direction.word (cpu.getWord .af))
  | .sp => cpu.setWord .sp (direction.word cpu.sp)
  | .pc => cpu.setWord .pc (direction.word cpu.pc)

theorem stepWord_eq (cpu : Cpu) (direction : Direction) (r : WordRegister) :
    cpu.stepWord direction r = cpu.setWord r (direction.word (cpu.getWord r)) := by
  cases r with
  | af | sp | pc => rfl
  | bc | de | hl => simp [stepWord, setWord, getWord, ← word_ripple]

def booted : Cpu where
  a := 0x01
  flags := { zero := true, carry := true }
  b := 0x00
  c := 0x13
  d := 0x00
  e := 0xd8
  h := 0x01
  l := 0x4d
  sp := 0xfffe
  pc := 0x0100

end Cpu

end Sm83
