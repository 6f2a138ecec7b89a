set_option autoImplicit false

namespace Sm83

-- A read may change the bus, as it does on one that keeps a record.
class Bus (β : Type) where
  read : β → UInt16 → UInt8 × β
  write : β → UInt16 → UInt8 → β

structure Memory where
  cells : Vector UInt8 65536

namespace Memory

def zero : Memory :=
  ⟨Vector.replicate 65536 0⟩

@[inline] def read (memory : Memory) (address : UInt16) : UInt8 :=
  have within : address.toNat < 65536 := address.toNat_lt
  memory.cells[address.toNat]

@[inline] def write (memory : Memory) (address : UInt16) (value : UInt8) : Memory :=
  ⟨memory.cells.set address.toNat value address.toNat_lt⟩

@[simp] theorem read_zero (address : UInt16) : zero.read address = 0 := by
  simp [zero, read]

theorem read_write (memory : Memory) (address other : UInt16) (value : UInt8) :
    (memory.write address value).read other =
      if other = address then value else memory.read other := by
  simp [read, write, Vector.getElem_set, UInt16.toNat_inj, eq_comm]

@[simp] theorem read_write_self (memory : Memory) (address : UInt16) (value : UInt8) :
    (memory.write address value).read address = value := by
  simp [read_write]

theorem ext {m n : Memory} (h : ∀ address, m.read address = n.read address) : m = n := by
  obtain ⟨m⟩ := m
  obtain ⟨n⟩ := n
  congr 1
  apply Vector.ext
  intro i hi
  have same := h (UInt16.ofNat i)
  have index : (UInt16.ofNat i).toNat = i := by
    rw [UInt16.toNat_ofNat']
    exact Nat.mod_eq_of_lt hi
  simpa [read, index] using same

def summary : String :=
  "MemoryBus \x7b len: " ++ toString (65536 : Nat) ++ " \x7d"

end Memory

instance : Bus Memory where
  read memory address := (memory.read address, memory)
  write := Memory.write

inductive Access where
  | read (address : UInt16) (value : UInt8)
  | write (address : UInt16) (value : UInt8)
  deriving DecidableEq, Repr

structure Recorder (β : Type) where
  bus : β
  accesses : Array Access := #[]

namespace Recorder

variable {β : Type} [Bus β]

instance : Bus (Recorder β) where
  read recorder address :=
    let ⟨bus, accesses⟩ := recorder
    let (value, bus) := Bus.read bus address
    (value, ⟨bus, accesses.push (.read address value)⟩)
  write recorder address value :=
    let ⟨bus, accesses⟩ := recorder
    ⟨Bus.write bus address value, accesses.push (.write address value)⟩

theorem accesses_read (recorder : Recorder β) (address : UInt16) :
    (Bus.read recorder address).2.accesses.toList =
      recorder.accesses.toList ++ [.read address (Bus.read recorder.bus address).1] := by
  obtain ⟨bus, accesses⟩ := recorder
  simp [Bus.read]

theorem accesses_write (recorder : Recorder β) (address : UInt16) (value : UInt8) :
    (Bus.write recorder address value).accesses.toList =
      recorder.accesses.toList ++ [.write address value] := by
  obtain ⟨bus, accesses⟩ := recorder
  simp [Bus.write]

def writes (accesses : List Access) : List (UInt16 × UInt8) :=
  accesses.filterMap fun
    | .read .. => none
    | .write address value => some (address, value)

end Recorder

structure SerialLink where
  memory : Memory := .zero
  sent : Array UInt8 := #[]

namespace SerialLink

def dataRegister : UInt16 := 0xff01

def controlRegister : UInt16 := 0xff02

def start : UInt8 := 0x81

def write (link : SerialLink) (address : UInt16) (value : UInt8) : SerialLink :=
  let sent :=
    if address = controlRegister ∧ value = start then
      link.sent.push (link.memory.read dataRegister)
    else
      link.sent
  { memory := link.memory.write address value, sent }

instance : Bus SerialLink where
  read link address := (link.memory.read address, link)
  write := write

theorem sent_write (link : SerialLink) (address : UInt16) (value : UInt8) :
    (link.write address value).sent.toList =
      link.sent.toList ++
        if address = controlRegister ∧ value = start then [link.memory.read dataRegister]
        else [] := by
  by_cases sends : address = controlRegister ∧ value = start <;> simp [write, sends]

end SerialLink

end Sm83
