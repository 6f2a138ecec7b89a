import Sm83.Machine.Command

set_option autoImplicit false

namespace Sm83

namespace Memory

def readWord (memory : Memory) (address : UInt16) : UInt16 :=
  word (memory.read (address + 1)) (memory.read address)

def writeWord (memory : Memory) (address value : UInt16) : Memory :=
  (memory.write address (lowByte value)).write (address + 1) (highByte value)

theorem read_writeWord_of_ne {address other : UInt16} (memory : Memory) (value : UInt16)
    (low : other ≠ address) (high : other ≠ address + 1) :
    (memory.writeWord address value).read other = memory.read other := by
  rw [writeWord, read_write, if_neg high, read_write, if_neg low]

@[simp] theorem readWord_writeWord_self (memory : Memory) (address value : UInt16) :
    (memory.writeWord address value).readWord address = value := by
  have apart : address ≠ address + 1 := by grind
  simp [readWord, writeWord, read_write, apart]

theorem readWord_congr {memory other : Memory} {address : UInt16}
    (low : other.read address = memory.read address)
    (high : other.read (address + 1) = memory.read (address + 1)) :
    other.readWord address = memory.readWord address := by
  rw [readWord, readWord, low, high]

end Memory

namespace Microcode

@[simp] theorem perform_readWord (address : UInt16) (memory : Memory) (log : Log) :
    (readWord address).perform memory log = ⟨.ok (memory.readWord address), memory, log⟩ := rfl

@[simp] theorem perform_writeWord (address value : UInt16) (memory : Memory) (log : Log) :
    (writeWord address value).perform memory log =
      ⟨.ok (), memory.writeWord address value, log⟩ := rfl

end Microcode

namespace Cpu

@[simp] theorem perform_push (cpu : Cpu) (value : UInt16) (memory : Memory) (log : Log) :
    (cpu.push value).perform memory log =
      ⟨.ok { cpu with sp := cpu.sp - 2 }, memory.writeWord (cpu.sp - 2) value, log⟩ := rfl

@[simp] theorem perform_pop (cpu : Cpu) (memory : Memory) (log : Log) :
    cpu.pop.perform memory log =
      ⟨.ok (memory.readWord cpu.sp, { cpu with sp := cpu.sp + 2 }), memory, log⟩ := rfl

end Cpu

end Sm83
