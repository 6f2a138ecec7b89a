import Sm83.Proofs.Adder
import Sm83.Proofs.Dispatch

set_option autoImplicit false

namespace Sm83

open Microcode hiding perform

theorem addCarry_word (v w : UInt16) (carry : Bool) :
    let low := addCarry (lowByte v) (lowByte w) carry
    let high := addCarry (highByte v) (highByte w) low.2
    addCarry v w carry = (word high.1 low.1, high.2) := by
  intro low high
  let whole := addCarry v w carry
  have sum : whole.1.toNat + 65536 * whole.2.toNat = v.toNat + w.toNat + carry.toNat :=
    toNat_addCarry v w carry
  have lower : low.1.toNat + 256 * low.2.toNat =
      (lowByte v).toNat + (lowByte w).toNat + carry.toNat :=
    toNat_addCarry (lowByte v) (lowByte w) carry
  have upper : high.1.toNat + 256 * high.2.toNat =
      (highByte v).toNat + (highByte w).toNat + low.2.toNat :=
    toNat_addCarry (highByte v) (highByte w) low.2
  rw [toNat_lowByte, toNat_lowByte] at lower
  rw [toNat_highByte, toNat_highByte] at upper
  have joined := toNat_word high.1 low.1
  have total : whole.1.toNat + 65536 * whole.2.toNat =
      (word high.1 low.1).toNat + 65536 * high.2.toNat := by omega
  exact eq_of_total_eq total

namespace Cpu

theorem addCarry_hl (cpu : Cpu) (value : UInt16) (carry : Bool) :
    let low := addCarry cpu.l (lowByte value) carry
    let high := addCarry cpu.h (highByte value) low.2
    addCarry (cpu.getWord .hl) value carry = (word high.1 low.1, high.2) := by
  simp only [getWord, addCarry_word, highByte_word, lowByte_word]

theorem addWord_eq (cpu : Cpu) (value : UInt16) :
    let low := addCarry cpu.l (lowByte value) false
    let high := addCarry cpu.h (highByte value) low.2
    cpu.addWord value =
      { cpu with h := high.1, l := low.1, flags := { cpu.flags with carry := high.2 } } := by
  simp only [addWord, addCarry_hl, setWord, highByte_word, lowByte_word]

end Cpu

def signed (b : UInt8) : Int :=
  if b < 128 then b.toNat else b.toNat - 256

theorem toNat_add_signExtend (w : UInt16) (b : UInt8) :
    ((w + signExtend b).toNat : Int) = (w.toNat + signed b) % 65536 := by
  have hb := b.toNat_lt
  have below : (b < 128) = (b.toNat < 128) := by simp [UInt8.lt_iff_toNat_lt]
  by_cases positive : b.toNat < 128
  next => simp [signExtend, signed, below, positive, UInt16.toNat_add]
  next =>
    simp [signExtend, signed, below, positive, UInt16.toNat_add, UInt16.toNat_sub]
    omega

-- The low byte of a signed sum is that of the unsigned one.
theorem lowByte_add_signExtend (w : UInt16) (b : UInt8) :
    lowByte (w + signExtend b) = (addCarry (lowByte w) b false).1 := by
  let low := addCarry (lowByte w) b false
  have sum : low.1.toNat + 256 * low.2.toNat = (lowByte w).toNat + b.toNat + 0 :=
    toNat_addCarry (lowByte w) b false
  have fits := low.1.toNat_lt
  have moved := toNat_add_signExtend w b
  rw [toNat_lowByte] at sum
  apply UInt8.toNat_inj.mp
  rw [toNat_lowByte]
  change _ = low.1.toNat
  -- A negative byte takes a page away, which the low byte does not show.
  unfold signed at moved
  split at moved <;> omega

-- A displacement and its negative cancel, but for the one byte that is its own negative.
theorem add_signExtend_cancel_iff {b negative : UInt8}
    (negates : negative.toNat = (256 - b.toNat) % 256) (w : UInt16) :
    w + signExtend b + signExtend negative = w ↔ b ≠ 0x80 := by
  have hb := b.toNat_lt
  have hw := w.toNat_lt
  have there := toNat_add_signExtend w b
  have back := toNat_add_signExtend (w + signExtend b) negative
  have own : b = 0x80 ↔ b.toNat = 128 := by simp [← UInt8.toNat_inj]
  rw [← UInt16.toNat_inj, Ne, own]
  simp only [signed, UInt8.lt_iff_toNat_lt, UInt8.reduceToNat] at there back
  split at there <;> split at back <;> omega

namespace Command

def bytewise (operation : Operation) (r : ByteRegister) (a value : UInt8) : List Command :=
  [.setByte .a a, .setByte r value, .execute (.operate operation (.register r)) 0 1, .getByte .a]

end Command

namespace Machine

variable {β : Type} [Bus β]

theorem applyAll_append (machine : Machine β) (first second : List Command) :
    machine.applyAll (first ++ second) =
      ((machine.applyAll first).1 ++ ((machine.applyAll first).2.applyAll second).1,
        ((machine.applyAll first).2.applyAll second).2) := by
  induction first generalizing machine with
  | nil => rfl
  | cons command rest ih => simp only [List.cons_append, applyAll, ih]

def results (result : UInt8) : List (Except Fault Reply) :=
  [.ok .done, .ok .done, .ok (.executed 1 false), .ok (.byte result)]

theorem applyAll_bytewise (machine : Machine β) {operation : Operation} {r : ByteRegister}
    (spare : r ≠ .a) (kept : operation ≠ .compare) (a value : UInt8) :
    let computed := operation.apply a value machine.cpu.flags.carry
    machine.applyAll (Command.bytewise operation r a value) = (results computed.1,
      ⟨{ machine.cpu.setByte r value with
          a := computed.1, flags := { zero := computed.1 = 0, carry := computed.2 } },
        machine.bus, machine.log⟩) := by
  obtain ⟨cpu, bus, log⟩ := machine
  cases operation with
  | compare => exact absurd rfl kept
  | add | addCarry | sub | subCarry | and | xor | or =>
    cases r with
    | a => exact absurd rfl spare
    | b | c | d | e | h | l => rfl

/-- A pair of bytes is added to `HL` as the bytes are by the arithmetic unit, the low ones without
and the high ones with carry. The zero flag does not show the sum, and nothing else changes. -/
theorem word_sum_by_bytes (machine : Machine β) (pair : WordRegister) {r : ByteRegister}
    (spare : r ≠ .a) (pc length : UInt16) :
    let value := machine.cpu.getWord pair
    let total := (machine.cpu.getWord .hl).toNat + value.toNat
    let bytes := machine.applyAll
      (Command.bytewise .add r machine.cpu.l (lowByte value) ++
        Command.bytewise .addCarry r machine.cpu.h (highByte value))
    ∃ (high low : UInt8) (carry : Bool),
      let added : Cpu :=
        { machine.cpu with h := high, l := low, flags := { machine.cpu.flags with carry } }
      bytes.1 = results low ++ results high ∧ bytes.2.cpu.flags.carry = carry ∧
      (word high low).toNat = total % 65536 ∧ carry = decide (65536 ≤ total) ∧
      machine.apply (.execute (.addWord pair) pc length) =
        (.ok (.executed (pc + length) false), { machine with cpu := added }) ∧
      ∀ cycles, machine.cpu.halted = false →
        decode (Bus.read machine.bus pc).1 = some (.fixed (.addWord pair) 2) →
        ∃ log, machine.apply (.step pc cycles) = (.ok (.progress ⟨pc + 1, cycles - 2⟩),
          ⟨{ added with pc := pc + 1 }, (Bus.read machine.bus pc).2, log⟩) := by
  intro value total bytes
  let low := addCarry machine.cpu.l (lowByte value) false
  let high := addCarry machine.cpu.h (highByte value) low.2
  have halves : addCarry (machine.cpu.getWord .hl) value false = (word high.1 low.1, high.2) :=
    machine.cpu.addCarry_hl value false
  have sum : (addCarry (machine.cpu.getWord .hl) value false).1.toNat = total % 65536 :=
    UInt16.toNat_ofNat'
  have carries : (addCarry (machine.cpu.getWord .hl) value false).2 = decide (65536 ≤ total) := rfl
  rw [halves] at sum carries
  have added := machine.cpu.addWord_eq value
  have ran : bytes = _ := machine.applyAll_append _ _
  simp only [machine.applyAll_bytewise spare (by decide : Operation.add ≠ .compare)] at ran
  simp only [applyAll_bytewise _ spare (by decide : Operation.addCarry ≠ .compare)] at ran
  refine ⟨high.1, low.1, high.2, ?_, ?_, sum, carries, ?_, ?_⟩
  next => rw [ran]; rfl
  next => rw [ran]; rfl
  next =>
    rw [← added]
    rfl
  next =>
    intro cycles running known
    rw [← added]
    exact exists_apply_step_on_bus running known rfl (fun _ => rfl) rfl cycles

-- A sum of halves that carries in the middle and at the top, of `HL` with itself and by a step.
def doubling : Machine Memory where
  cpu := { h := 0x8a, l := 0x9c, flags := { zero := true } }
  bus := Memory.zero.write 0xffff 0x29

theorem word_sum_by_bytes_doubling :
    let bytes := doubling.applyAll
      (Command.bytewise .add .b 0x9c 0x9c ++ Command.bytewise .addCarry .b 0x8a 0x8a)
    let added : Cpu := { h := 0x15, l := 0x38, flags := { zero := true, carry := true } }
    ByteRegister.b ≠ .a ∧ bytes.1 = results 0x38 ++ results 0x15 ∧
      doubling.apply (.execute (.addWord .hl) 0xffff 1) =
        (.ok (.executed 0 false), { doubling with cpu := added }) ∧
      doubling.cpu.halted = false ∧
      decode (Bus.read doubling.bus 0xffff).1 = some (.fixed (.addWord .hl) 2) ∧
      ∃ log, doubling.apply (.step 0xffff 7) = (.ok (.progress ⟨0, 5⟩),
        ⟨added, doubling.bus, log⟩) := by
  have stands : (Bus.read doubling.bus 0xffff).1 = 0x29 := Memory.read_write_self _ _ _
  have known : decode (Bus.read doubling.bus 0xffff).1 = some (.fixed (.addWord .hl) 2) := by
    rw [stands]
    rfl
  obtain ⟨high, low, carry, bytes, -, value, carries, executed, stepped⟩ :=
    doubling.word_sum_by_bytes .hl (by decide : ByteRegister.b ≠ .a) 0xffff 1
  have sum : word high low = 0x1538 := UInt16.toNat_inj.mp value
  have upper : high = 0x15 := (highByte_word high low).symm.trans (congrArg highByte sum)
  have lower : low = 0x38 := (lowByte_word high low).symm.trans (congrArg lowByte sum)
  subst upper lower carries
  exact ⟨by decide, bytes, executed, rfl, known, stepped 7 rfl known⟩

/-- The stack pointer plus a signed byte, for the stack pointer itself and for `HL`: the sum wraps,
its low byte and the carry are those of an unsigned sum of bytes, and zero is cleared. A second
displacement by the negative leads back, unless the byte is the one that is its own negative. -/
theorem stack_pointer_displaced (machine : Machine β) (pc length : UInt16) {e : UInt8} {fetched : β}
    (reads : Bus.read machine.bus (pc + 1) = (e, fetched)) {r : ByteRegister} (spare : r ≠ .a) :
    let sp := machine.cpu.sp
    let bytes := machine.applyAll (Command.bytewise .add r (lowByte sp) e)
    let flags : Flags := { zero := false, carry := decide (256 ≤ sp.toNat % 256 + e.toNat) }
    ∃ moved : UInt16,
      let pointed : Cpu := { machine.cpu with sp := moved, flags }
      let addressed : Cpu := { machine.cpu with h := highByte moved, l := lowByte moved, flags }
      (moved.toNat : Int) = (sp.toNat + signed e) % 65536 ∧
      bytes.1 = results (lowByte moved) ∧ bytes.2.cpu.flags.carry = flags.carry ∧
      machine.apply (.execute .addStackPointer pc length) =
        (.ok (.executed (pc + length) false), ⟨pointed, fetched, machine.log⟩) ∧
      machine.apply (.execute .loadStackAddress pc length) =
        (.ok (.executed (pc + length) false), ⟨addressed, fetched, machine.log⟩) ∧
      (∀ (back size : UInt16) (negative : UInt8) (later : β),
        Bus.read fetched (back + 1) = (negative, later) →
        negative.toNat = (256 - e.toNat) % 256 →
        let returned := (Machine.mk pointed fetched machine.log).apply
          (.execute .addStackPointer back size)
        returned.1 = .ok (.executed (back + size) false) ∧
          (returned.2.cpu.sp = sp ↔ e ≠ 0x80)) ∧
      ∀ (waiting : Machine β) (cycles : Int), waiting.cpu = machine.cpu →
        machine.cpu.halted = false →
        (Bus.read waiting.bus pc = (0xe8, machine.bus) →
          ∃ log, waiting.apply (.step pc cycles) = (.ok (.progress ⟨pc + 2, cycles - 4⟩),
            ⟨{ pointed with pc := pc + 2 }, fetched, log⟩)) ∧
        (Bus.read waiting.bus pc = (0xf8, machine.bus) →
          ∃ log, waiting.apply (.step pc cycles) = (.ok (.progress ⟨pc + 2, cycles - 3⟩),
            ⟨{ addressed with pc := pc + 2 }, fetched, log⟩)) := by
  obtain rfl : (Bus.read machine.bus (pc + 1)).1 = e := congrArg Prod.fst reads
  obtain rfl : (Bus.read machine.bus (pc + 1)).2 = fetched := congrArg Prod.snd reads
  intro sp bytes flags
  let e := (Bus.read machine.bus (pc + 1)).1
  let moved := machine.cpu.displacedStackPointer e
  have low : lowByte moved = (addCarry (lowByte sp) e false).1 := lowByte_add_signExtend sp e
  have carries : machine.cpu.displacementFlags e = flags := by
    rw [Cpu.displacementFlags, Flags.mk.injEq]
    exact ⟨rfl, congrArg (fun n => decide (256 ≤ n + e.toNat)) (toNat_lowByte sp)⟩
  have ran : bytes = _ := machine.applyAll_bytewise spare (by decide : Operation.add ≠ .compare) _ _
  refine ⟨moved, toNat_add_signExtend sp e, ?_, ?_, ?_, ?_, ?_, ?_⟩
  next => rw [ran, low]; rfl
  next => rw [ran, ← carries]; rfl
  next => rw [← carries]; rfl
  next => rw [← carries]; rfl
  next =>
    intro back size negative later returns negates returned
    obtain rfl : (Bus.read (Bus.read machine.bus (pc + 1)).2 (back + 1)).1 = negative :=
      congrArg Prod.fst returns
    exact ⟨rfl, add_signExtend_cancel_iff negates sp⟩
  next =>
    intro waiting cycles same running
    rw [← carries]
    constructor
    next =>
      intro opened
      exact exists_apply_step_opened same running opened rfl rfl (fun _ => rfl) rfl cycles
    next =>
      intro opened
      exact exists_apply_step_opened same running opened rfl rfl (fun _ => rfl) rfl cycles

-- A move past the bottom of memory and back, and such a move for `HL`, all by opcodes in memory.
def descending : Machine Memory where
  cpu := { a := 0x99, h := 0x11, l := 0x22, flags := { zero := true, carry := true }, sp := 0x0003 }
  bus := ((Memory.zero.write 0x8000 0xe8).write 0x8001 0xfb).write 0x9001 0x05

theorem stack_pointer_displaced_descending :
    let bytes := descending.applyAll (Command.bytewise .add .b 0x03 0xfb)
    let pointed : Machine Memory :=
      { descending with cpu := { a := 0x99, h := 0x11, l := 0x22, sp := 0xfffe } }
    let addressed : Cpu := { a := 0x99, h := 0xff, l := 0xfe, sp := 0x0003 }
    Bus.read descending.bus 0x8001 = (0xfb, descending.bus) ∧ ByteRegister.b ≠ .a ∧
      bytes.1 = results 0xfe ∧
      descending.apply (.execute .addStackPointer 0x8000 2) =
        (.ok (.executed 0x8002 false), pointed) ∧
      descending.apply (.execute .loadStackAddress 0x8000 2) =
        (.ok (.executed 0x8002 false), { descending with cpu := addressed }) ∧
      Bus.read descending.bus 0x9001 = (0x05, descending.bus) ∧
      (0x05 : UInt8).toNat = (256 - (0xfb : UInt8).toNat) % 256 ∧
      (pointed.apply (.execute .addStackPointer 0x9000 2)).2.cpu.sp = 0x0003 ∧
      descending.cpu.halted = false ∧
      Bus.read descending.bus 0x8000 = (0xe8, descending.bus) ∧
      ∃ log, descending.apply (.step 0x8000 9) = (.ok (.progress ⟨0x8002, 5⟩),
        ⟨{ pointed.cpu with pc := 0x8002 }, descending.bus, log⟩) := by
  intro bytes pointed addressed
  have reads : Bus.read descending.bus 0x8001 = (0xfb, descending.bus) := by
    simp [descending, Bus.read, Memory.read_write]
  have returns : Bus.read descending.bus 0x9001 = (0x05, descending.bus) := by
    simp [descending, Bus.read]
  have opened : Bus.read descending.bus 0x8000 = (0xe8, descending.bus) := by
    simp [descending, Bus.read, Memory.read_write]
  obtain ⟨moved, value, bytes, -, displaced, loaded, cancel, steps⟩ :=
    descending.stack_pointer_displaced 0x8000 2 reads (by decide : ByteRegister.b ≠ .a)
  obtain rfl : moved = 0xfffe := UInt16.toNat_inj.mp (Int.ofNat_inj.mp value)
  exact ⟨reads, by decide, bytes, displaced, loaded, returns, by decide,
    (cancel 0x9000 2 0x05 _ returns (by decide)).2.mpr (by decide), rfl, opened,
    (steps descending 9 rfl rfl).1 opened⟩

end Machine

end Sm83
