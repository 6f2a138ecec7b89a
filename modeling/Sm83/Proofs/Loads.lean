import Sm83.Proofs.Dispatch

set_option autoImplicit false

namespace Sm83

open Microcode hiding perform

inductive Deposit where
  | register (register : ByteRegister) (value : UInt8)
  | pair (register : WordRegister) (value : UInt16)
  | byte (address : UInt16) (value : UInt8)
  | word (address value : UInt16)

namespace Deposit

def cpu : Deposit → Cpu → Cpu
  | register r value, cpu => cpu.setByte r value
  | pair r value, cpu => cpu.setWord r value
  | byte .., cpu | word .., cpu => cpu

def memory : Deposit → Memory → Memory
  | register .., memory | pair .., memory => memory
  | byte address value, memory => memory.write address value
  | word address value, memory =>
    (memory.write address (lowByte value)).write (address + 1) (highByte value)

def named (cpu : Cpu) (value : UInt8) : Fin 8 → Deposit
  | 0 => register .b value
  | 1 => register .c value
  | 2 => register .d value
  | 3 => register .e value
  | 4 => register .h value
  | 5 => register .l value
  | 6 => byte (Sm83.word cpu.h cpu.l) value
  | 7 => register .a value

theorem perform_store_operand (digit : Fin 8) (cpu : Cpu) (pc : UInt16) (value : UInt8)
    (memory : Memory) (log : Log) :
    ((Opcode.operand digit).store cpu pc value).perform memory log =
      ⟨.ok ((named cpu value digit).cpu cpu), (named cpu value digit).memory memory, log⟩ := by
  match digit with
  | 0 | 1 | 2 | 3 | 4 | 5 | 6 | 7 => rfl

end Deposit

structure Load where
  deposit : Deposit
  length : UInt16
  advance : UInt16 := 0

namespace Load

def moved (load : Load) (cpu : Cpu) : Cpu :=
  let cpu := load.deposit.cpu cpu
  cpu.setWord .hl (cpu.getWord .hl + load.advance)

theorem moved_of_still {load : Load} (still : load.advance = 0) (cpu : Cpu) :
    load.moved cpu = load.deposit.cpu cpu := by
  simp [moved, still, Cpu.setWord, Cpu.getWord]

end Load

def immediateLoads : List UInt8 :=
  [0x06, 0x0e, 0x16, 0x1e, 0x26, 0x2e, 0x36, 0x3e]

def otherLoads : List UInt8 :=
  [0x02, 0x12, 0x0a, 0x1a, 0x22, 0x32, 0x2a, 0x3a, 0xe0, 0xf0, 0xe2, 0xf2, 0xea, 0xfa, 0x01, 0x11,
    0x21, 0x31, 0x08, 0xf9]

def IsLoad (opcode : UInt8) : Prop :=
  (0x40 ≤ opcode ∧ opcode ≤ 0x7f) ∧ opcode ≠ 0x76 ∨ opcode ∈ immediateLoads ∨ opcode ∈ otherLoads

namespace Machine

inductive Loads (machine : Machine Memory) (pc : UInt16) : UInt8 → Load → Prop where
  | named {opcode : UInt8} (block : 0x40 ≤ opcode ∧ opcode ≤ 0x7f) (other : opcode ≠ 0x76) :
      Loads machine pc opcode
        ⟨.named machine.cpu (machine.named (Opcode.last opcode)) (Opcode.middle opcode), 1, 0⟩
  | immediate {opcode : UInt8} (member : opcode ∈ immediateLoads) :
      Loads machine pc opcode
        ⟨.named machine.cpu (machine.bus.read (pc + 1)) (Opcode.middle opcode), 2, 0⟩
  | storeAtBc : Loads machine pc 0x02
      ⟨.byte (word machine.cpu.b machine.cpu.c) machine.cpu.a, 1, 0⟩
  | storeAtDe : Loads machine pc 0x12
      ⟨.byte (word machine.cpu.d machine.cpu.e) machine.cpu.a, 1, 0⟩
  | loadAtBc : Loads machine pc 0x0a
      ⟨.register .a (machine.bus.read (word machine.cpu.b machine.cpu.c)), 1, 0⟩
  | loadAtDe : Loads machine pc 0x1a
      ⟨.register .a (machine.bus.read (word machine.cpu.d machine.cpu.e)), 1, 0⟩
  | storeUp : Loads machine pc 0x22
      ⟨.byte (word machine.cpu.h machine.cpu.l) machine.cpu.a, 1, 1⟩
  | storeDown : Loads machine pc 0x32
      ⟨.byte (word machine.cpu.h machine.cpu.l) machine.cpu.a, 1, -1⟩
  | loadUp : Loads machine pc 0x2a
      ⟨.register .a (machine.bus.read (word machine.cpu.h machine.cpu.l)), 1, 1⟩
  | loadDown : Loads machine pc 0x3a
      ⟨.register .a (machine.bus.read (word machine.cpu.h machine.cpu.l)), 1, -1⟩
  | storeHighImmediate : Loads machine pc 0xe0
      ⟨.byte (0xff00 + (machine.bus.read (pc + 1)).toUInt16) machine.cpu.a, 2, 0⟩
  | loadHighImmediate : Loads machine pc 0xf0
      ⟨.register .a (machine.bus.read (0xff00 + (machine.bus.read (pc + 1)).toUInt16)), 2, 0⟩
  | storeHigh : Loads machine pc 0xe2 ⟨.byte (0xff00 + machine.cpu.c.toUInt16) machine.cpu.a, 1, 0⟩
  | loadHigh : Loads machine pc 0xf2
      ⟨.register .a (machine.bus.read (0xff00 + machine.cpu.c.toUInt16)), 1, 0⟩
  | storeAbsolute : Loads machine pc 0xea
      ⟨.byte (machine.bus.readWord (pc + 1)) machine.cpu.a, 3, 0⟩
  | loadAbsolute : Loads machine pc 0xfa
      ⟨.register .a (machine.bus.read (machine.bus.readWord (pc + 1))), 3, 0⟩
  | bc : Loads machine pc 0x01 ⟨.pair .bc (machine.bus.readWord (pc + 1)), 3, 0⟩
  | de : Loads machine pc 0x11 ⟨.pair .de (machine.bus.readWord (pc + 1)), 3, 0⟩
  | hl : Loads machine pc 0x21 ⟨.pair .hl (machine.bus.readWord (pc + 1)), 3, 0⟩
  | sp : Loads machine pc 0x31 ⟨.pair .sp (machine.bus.readWord (pc + 1)), 3, 0⟩
  | storeSp : Loads machine pc 0x08
      ⟨.word (machine.bus.readWord (pc + 1)) machine.cpu.sp, 3, 0⟩
  | spFromHl : Loads machine pc 0xf9 ⟨.pair .sp (word machine.cpu.h machine.cpu.l), 1, 0⟩

end Machine

theorem decode_named_load (opcode : UInt8) (block : 0x40 ≤ opcode ∧ opcode ≤ 0x7f)
    (other : opcode ≠ 0x76) :
    ∃ entry ∈ decode opcode, entry.length = 1 ∧
      entry.instruction = .load (Opcode.operand (Opcode.middle opcode))
        (Opcode.operand (Opcode.last opcode)) := by
  revert opcode
  exact forall_opcode (by decide +kernel)

theorem decode_immediate_load (opcode : UInt8) (member : opcode ∈ immediateLoads) :
    ∃ entry ∈ decode opcode, entry.length = 2 ∧
      entry.instruction = .load (Opcode.operand (Opcode.middle opcode)) .immediate := by
  revert opcode
  exact forall_opcode (by decide +kernel)

namespace Machine

variable {machine : Machine Memory} {pc : UInt16} {opcode : UInt8} {load : Load}

theorem perform_load {source : ByteOperand} {value : UInt8}
    (fetches : ∀ log, (source.fetch machine.cpu pc).perform machine.bus log =
      ⟨.ok value, machine.bus, log⟩) (digit : Fin 8) (length : UInt16) (log : Log) :
    let deposit := Deposit.named machine.cpu value digit
    ((Instruction.load (Opcode.operand digit) source).execute machine.cpu pc length).perform
      machine.bus log =
      ⟨.ok { cpu := deposit.cpu machine.cpu, next := pc + length }, deposit.memory machine.bus,
        log⟩ := by
  simp only [Instruction.execute, Executed.proceed, bind_eq, bind_assoc, perform_bind, fetches,
    Deposit.perform_store_operand]
  rfl

theorem Loads.exists_entry (loads : machine.Loads pc opcode load) :
    ∃ entry, decode opcode = some entry ∧ UInt16.ofNat entry.length = load.length ∧ ∀ log,
      (entry.instruction.execute machine.cpu pc load.length).perform machine.bus log =
        ⟨.ok { cpu := load.moved machine.cpu, next := pc + load.length },
          load.deposit.memory machine.bus, log⟩ := by
  cases loads with
  | named block other =>
    obtain ⟨entry, known, length, instruction⟩ := decode_named_load opcode block other
    refine ⟨entry, known, by rw [length]; rfl, fun log => ?_⟩
    rw [instruction, Load.moved_of_still rfl]
    exact perform_load (machine.perform_fetch_operand _ pc) _ 1 log
  | immediate member =>
    obtain ⟨entry, known, length, instruction⟩ := decode_immediate_load opcode member
    refine ⟨entry, known, by rw [length]; rfl, fun log => ?_⟩
    rw [instruction, Load.moved_of_still rfl]
    exact perform_load (fun _ => rfl) _ 2 log
  | storeUp | storeDown | loadUp | loadDown =>
    refine ⟨_, rfl, rfl, fun log => ?_⟩
    simp only [Instruction.execute, Cpu.stepWord_eq, Direction.word, UInt16.sub_eq_add_neg]
    rfl
  | storeAtBc | storeAtDe | loadAtBc | loadAtDe | storeHighImmediate | loadHighImmediate | storeHigh
  | loadHigh | storeAbsolute | loadAbsolute | bc | de | hl | sp | storeSp | spFromHl =>
    refine ⟨_, rfl, rfl, fun log => ?_⟩
    rw [Load.moved_of_still rfl]
    rfl

theorem exists_loads (isLoad : IsLoad opcode) (machine : Machine Memory) (pc : UInt16) :
    ∃ load, machine.Loads pc opcode load := by
  have others : ∀ opcode ∈ otherLoads, ∃ load, machine.Loads pc opcode load := by
    simp only [otherLoads, List.forall_mem_cons]
    exact ⟨⟨_, .storeAtBc⟩, ⟨_, .storeAtDe⟩, ⟨_, .loadAtBc⟩, ⟨_, .loadAtDe⟩, ⟨_, .storeUp⟩,
      ⟨_, .storeDown⟩, ⟨_, .loadUp⟩, ⟨_, .loadDown⟩, ⟨_, .storeHighImmediate⟩,
      ⟨_, .loadHighImmediate⟩, ⟨_, .storeHigh⟩, ⟨_, .loadHigh⟩, ⟨_, .storeAbsolute⟩,
      ⟨_, .loadAbsolute⟩, ⟨_, .bc⟩, ⟨_, .de⟩, ⟨_, .hl⟩, ⟨_, .sp⟩, ⟨_, .storeSp⟩, ⟨_, .spFromHl⟩,
      List.forall_mem_nil _⟩
  obtain ⟨block, other⟩ | member | member := isLoad
  next => exact ⟨_, .named block other⟩
  next => exact ⟨_, .immediate member⟩
  next => exact others opcode member

/-- A step on a load puts one value where it belongs and may move `HL` on, and nothing else. -/
theorem load_moves_one_value (running : machine.cpu.halted = false)
    (stands : machine.bus.read pc = opcode) (isLoad : IsLoad opcode) (cycles : Int) :
    (∃ load, machine.Loads pc opcode load) ∧
    ∀ load, machine.Loads pc opcode load → ∃ (cost : Nat) (log : Log),
      machine.apply (.step pc cycles) = (.ok (.progress ⟨pc + load.length, cycles - cost⟩),
        ⟨{ load.moved machine.cpu with pc := pc + load.length },
          load.deposit.memory machine.bus, log⟩) := by
  refine ⟨exists_loads isLoad machine pc, fun load loads => ?_⟩
  obtain ⟨entry, known, occupies, performed⟩ := loads.exists_entry
  exact ⟨_, exists_apply_step running ((congrArg decode stands).trans known) occupies performed rfl
    cycles⟩

-- The stack pointer is stored at the top of memory, over the operand that says so.
def overwriting : Machine Memory where
  cpu := { sp := 0xbeef }
  bus := ((Memory.zero.write 0xfffe 0x08).write 0xffff 0xff).write 0 0xff

theorem load_moves_one_value_overwriting :
    overwriting.cpu.halted = false ∧ overwriting.bus.read 0xfffe = 0x08 ∧ IsLoad 0x08 ∧
    overwriting.Loads 0xfffe 0x08 ⟨.word 0xffff 0xbeef, 3, 0⟩ ∧ ∃ (cost : Nat) (log : Log),
      overwriting.apply (.step 0xfffe 20) = (.ok (.progress ⟨1, 20 - cost⟩),
        ⟨{ sp := 0xbeef, pc := 1 }, (overwriting.bus.write 0xffff 0xef).write 0 0xbe, log⟩) := by
  have stands : overwriting.bus.read 0xfffe = 0x08 := by simp [overwriting, Memory.read_write]
  have isLoad : IsLoad 0x08 := .inr (.inr (by decide))
  have low : overwriting.bus.read 0xffff = 0xff := by simp [overwriting, Memory.read_write]
  have high : overwriting.bus.read 0 = 0xff := Memory.read_write_self _ _ _
  have target : overwriting.bus.readWord (0xfffe + 1) = 0xffff := by
    change word (overwriting.bus.read 0) (overwriting.bus.read 0xffff) = 0xffff
    rw [low, high]
    decide
  have loads : overwriting.Loads 0xfffe 0x08 ⟨.word 0xffff 0xbeef, 3, 0⟩ := target ▸ .storeSp
  obtain ⟨cost, log, step⟩ := (load_moves_one_value rfl stands isLoad 20).2 _ loads
  exact ⟨rfl, stands, isLoad, loads, cost, log, step⟩

end Machine

end Sm83
