import Sm83.Machine.Command
import Sm83.Proofs.LastGiven

set_option autoImplicit false

namespace Sm83

inductive RegisterWrite where
  | byte (r : ByteRegister) (value : UInt8)
  | word (r : WordRegister) (value : UInt16)
  deriving DecidableEq, Repr

def WordRegister.half (value : UInt16) : WordRegister → ByteRegister → Option UInt8
  | .af, .a | .bc, .b | .de, .d | .hl, .h => some (highByte value)
  | .bc, .c | .de, .e | .hl, .l => some (lowByte value)
  | _, _ => none

def Flags.ofWord (value : UInt16) : Flags where
  zero := value.toNat.testBit 7
  carry := value.toNat.testBit 4

theorem Flags.ofByte_lowByte (value : UInt16) : ofByte (lowByte value) = ofWord value := by
  simp only [ofByte, ofWord, bit, toNat_lowByte]
  rw [show 256 = 2 ^ 8 from rfl, Nat.testBit_mod_two_pow, Nat.testBit_mod_two_pow]
  rfl

namespace RegisterWrite

def command : RegisterWrite → Command
  | byte r value => .setByte r value
  | word r value => .setWord r value

def apply (cpu : Cpu) : RegisterWrite → Cpu
  | byte r value => cpu.setByte r value
  | word r value => cpu.setWord r value

def givenByte (r : ByteRegister) : RegisterWrite → Option UInt8
  | byte s value => if s = r then some value else none
  | word s value => s.half value r

def givenWord (r : WordRegister) : RegisterWrite → Option UInt16
  | byte .. => none
  | word s value => if s = r then some value else none

def givenFlags (write : RegisterWrite) : Option Flags :=
  (write.givenWord .af).map Flags.ofWord

def Apart (x y : RegisterWrite) : Prop :=
  (∀ r, x.givenByte r = none ∨ y.givenByte r = none) ∧
    ∀ r, x.givenWord r = none ∨ y.givenWord r = none

instance (x y : RegisterWrite) : Decidable (x.Apart y) :=
  decidable_of_iff
    ((∀ r ∈ ByteRegister.all, x.givenByte r = none ∨ y.givenByte r = none) ∧
      ∀ r ∈ WordRegister.all, x.givenWord r = none ∨ y.givenWord r = none)
    (by simp only [ByteRegister.mem_all, WordRegister.mem_all, true_imp_iff, Apart])

theorem apply_eq (cpu : Cpu) (write : RegisterWrite) :
    write.apply cpu =
      { a := (write.givenByte .a).getD cpu.a
        b := (write.givenByte .b).getD cpu.b
        c := (write.givenByte .c).getD cpu.c
        d := (write.givenByte .d).getD cpu.d
        e := (write.givenByte .e).getD cpu.e
        h := (write.givenByte .h).getD cpu.h
        l := (write.givenByte .l).getD cpu.l
        flags := write.givenFlags.getD cpu.flags
        sp := (write.givenWord .sp).getD cpu.sp
        pc := (write.givenWord .pc).getD cpu.pc
        interruptsEnabled := cpu.interruptsEnabled
        halted := cpu.halted } := by
  cases write with
  | byte r value => cases r <;> rfl
  | word r value =>
    cases r with
    | af => rw [apply, Cpu.setWord, Flags.ofByte_lowByte]; rfl
    | bc | de | hl | sp | pc => rfl

theorem getByte_apply (cpu : Cpu) (write : RegisterWrite) (r : ByteRegister) :
    (write.apply cpu).getByte r = (write.givenByte r).getD (cpu.getByte r) := by
  rw [apply_eq]
  cases r <;> rfl

theorem status_apply (cpu : Cpu) (write : RegisterWrite) :
    (write.apply cpu).interruptsEnabled = cpu.interruptsEnabled ∧
      (write.apply cpu).halted = cpu.halted := by
  rw [apply_eq]
  exact ⟨rfl, rfl⟩

end RegisterWrite

open RegisterWrite hiding byte word

namespace Cpu

def writeAll (cpu : Cpu) (writes : List RegisterWrite) : Cpu :=
  writes.foldl apply cpu

section WriteAll

variable (cpu : Cpu) (writes : List RegisterWrite)

theorem writeAll_append (first second : List RegisterWrite) :
    cpu.writeAll (first ++ second) = (cpu.writeAll first).writeAll second := List.foldl_append

theorem getByte_writeAll (r : ByteRegister) :
    (cpu.writeAll writes).getByte r = (lastGiven (givenByte r) writes).getD (cpu.getByte r) :=
  view_foldl (fun cpu : Cpu => cpu.getByte r) (fun cpu write => getByte_apply cpu write r) cpu
    writes

theorem flags_writeAll :
    (cpu.writeAll writes).flags =
      ((lastGiven (givenWord .af) writes).map Flags.ofWord).getD cpu.flags := by
  rw [← lastGiven_map]
  exact view_foldl Cpu.flags (fun cpu write => congrArg Cpu.flags (apply_eq cpu write)) cpu writes

theorem sp_writeAll :
    (cpu.writeAll writes).sp = (lastGiven (givenWord .sp) writes).getD cpu.sp :=
  view_foldl Cpu.sp (fun cpu write => congrArg Cpu.sp (apply_eq cpu write)) cpu writes

theorem pc_writeAll :
    (cpu.writeAll writes).pc = (lastGiven (givenWord .pc) writes).getD cpu.pc :=
  view_foldl Cpu.pc (fun cpu write => congrArg Cpu.pc (apply_eq cpu write)) cpu writes

theorem status_writeAll :
    (cpu.writeAll writes).interruptsEnabled = cpu.interruptsEnabled ∧
      (cpu.writeAll writes).halted = cpu.halted := by
  induction writes generalizing cpu with
  | nil => exact ⟨rfl, rfl⟩
  | cons write rest ih =>
    obtain ⟨enabled, halted⟩ := ih (write.apply cpu)
    obtain ⟨enables, halts⟩ := status_apply cpu write
    exact ⟨enabled.trans enables, halted.trans halts⟩

end WriteAll

theorem ext_registers {cpu other : Cpu} (bytes : ∀ r, cpu.getByte r = other.getByte r)
    (flags : cpu.flags = other.flags) (sp : cpu.sp = other.sp) (pc : cpu.pc = other.pc)
    (enabled : cpu.interruptsEnabled = other.interruptsEnabled)
    (halted : cpu.halted = other.halted) : cpu = other :=
  Cpu.ext (bytes .a) (bytes .b) (bytes .c) (bytes .d) (bytes .e) (bytes .h) (bytes .l) flags sp pc
    enabled halted

theorem writeAll_append_comm (cpu : Cpu) {first second : List RegisterWrite}
    (apart : ∀ x ∈ first, ∀ y ∈ second, x.Apart y) :
    cpu.writeAll (first ++ second) = cpu.writeAll (second ++ first) := by
  have bytes (r : ByteRegister) :
      lastGiven (givenByte r) (first ++ second) = lastGiven (givenByte r) (second ++ first) :=
    lastGiven_append_comm fun x here y there => (apart x here y there).1 r
  have words (r : WordRegister) :
      lastGiven (givenWord r) (first ++ second) = lastGiven (givenWord r) (second ++ first) :=
    lastGiven_append_comm fun x here y there => (apart x here y there).2 r
  have status := cpu.status_writeAll
  apply ext_registers
  next => intro r; rw [getByte_writeAll, getByte_writeAll, bytes]
  next => rw [flags_writeAll, flags_writeAll, words]
  next => rw [sp_writeAll, sp_writeAll, words]
  next => rw [pc_writeAll, pc_writeAll, words]
  next => rw [(status _).1, (status _).1]
  next => rw [(status _).2, (status _).2]

theorem getWord_writeAll (cpu : Cpu) (before : List RegisterWrite) (r : WordRegister)
    (value : UInt16) {later : List RegisterWrite}
    (apart : ∀ write ∈ later, (RegisterWrite.word r value).Apart write) :
    (cpu.writeAll (before ++ .word r value :: later)).getWord r =
      if r = .af then value &&& 0xff90 else value := by
  have last : (cpu.writeAll before).writeAll ([.word r value] ++ later) =
      (cpu.writeAll before).writeAll (later ++ [.word r value]) :=
    writeAll_append_comm _ fun x here y there => by
      rw [List.mem_singleton.mp here]
      exact apart y there
  rw [← List.singleton_append, writeAll_append, last, writeAll_append]
  exact getWord_setWord _ r value

theorem toNat_getWord_af (cpu : Cpu) :
    (cpu.getWord .af).toNat =
      256 * cpu.a.toNat + 128 * cpu.flags.zero.toNat + 16 * cpu.flags.carry.toNat := by
  have byte (flags : Flags) :
      flags.toByte.toNat = 128 * flags.zero.toNat + 16 * flags.carry.toNat := by
    obtain ⟨zero, carry⟩ := flags
    cases zero <;> cases carry <;> rfl
  rw [getWord, toNat_word, byte]
  omega

end Cpu

namespace Machine

variable {β : Type} [Bus β]

theorem applyAll_writes (machine : Machine β) (writes : List RegisterWrite) :
    machine.applyAll (writes.map RegisterWrite.command) =
      (writes.map fun _ => .ok .done, { machine with cpu := machine.cpu.writeAll writes }) := by
  induction writes generalizing machine with
  | nil => rfl
  | cons write rest ih =>
    have first : machine.apply write.command =
        (.ok .done, { machine with cpu := write.apply machine.cpu }) := by
      cases write with
      | byte r value => rfl
      | word r value => rfl
    rw [List.map_cons, applyAll, first]
    simp only [ih]
    rfl

/-- However the registers are written, as bytes and as words, a byte register holds what the last
write that covers it has put there, zero and carry are bits 7 and 4 of the last word for `AF`, and
`SP` and `PC` are the last words written to them; what no write covers is as it was. A word is
joined from what its halves hold, so it is read back as it was written, but for the bits of `F` that
do not exist. Writes that share no register can change places. -/
theorem register_views_consistent (machine : Machine β) (writes : List RegisterWrite) :
    let ran (writes : List RegisterWrite) := machine.applyAll (writes.map RegisterWrite.command)
    let final := (ran writes).2
    let cpu := final.cpu
    let last (r : WordRegister) : Option UInt16 := lastGiven (givenWord r) writes
    ((∀ reply ∈ (ran writes).1, reply = .ok .done) ∧
      final = { machine with cpu } ∧ cpu.interruptsEnabled = machine.cpu.interruptsEnabled ∧
      cpu.halted = machine.cpu.halted) ∧
    ((∀ r, final.apply (.getByte r) =
        (.ok (.byte ((lastGiven (givenByte r) writes).getD (machine.cpu.getByte r))), final)) ∧
      cpu.flags.zero = ((last .af).map (·.toNat.testBit 7)).getD machine.cpu.flags.zero ∧
      cpu.flags.carry = ((last .af).map (·.toNat.testBit 4)).getD machine.cpu.flags.carry ∧
      cpu.sp = (last .sp).getD machine.cpu.sp ∧ cpu.pc = (last .pc).getD machine.cpu.pc) ∧
    ((∀ r, final.apply (.getWord r) = (.ok (.word (cpu.getWord r)), final)) ∧
      (cpu.getWord .bc).toNat = 256 * cpu.b.toNat + cpu.c.toNat ∧
      (cpu.getWord .de).toNat = 256 * cpu.d.toNat + cpu.e.toNat ∧
      (cpu.getWord .hl).toNat = 256 * cpu.h.toNat + cpu.l.toNat ∧
      (cpu.getWord .af).toNat =
        256 * cpu.a.toNat + 128 * cpu.flags.zero.toNat + 16 * cpu.flags.carry.toNat ∧
      cpu.getWord .sp = cpu.sp ∧ cpu.getWord .pc = cpu.pc) ∧
    (∀ before r value later, writes = before ++ .word r value :: later →
      (∀ write ∈ later, (RegisterWrite.word r value).Apart write) →
      cpu.getWord r = if r = .af then value &&& 0xff90 else value) ∧
    ∀ first second : List RegisterWrite, (∀ x ∈ first, ∀ y ∈ second, x.Apart y) →
      (ran (first ++ second)).2 = (ran (second ++ first)).2 := by
  intro ran final cpu last
  have finals (writes : List RegisterWrite) :
      (ran writes).2 = { machine with cpu := machine.cpu.writeAll writes } :=
    congrArg Prod.snd (machine.applyAll_writes writes)
  have written : cpu = machine.cpu.writeAll writes := congrArg Machine.cpu (finals writes)
  have flags := machine.cpu.flags_writeAll writes
  have joined (high low : UInt8) : (word high low).toNat = 256 * high.toNat + low.toNat := by
    rw [toNat_word, Nat.mul_comm]
  refine ⟨⟨?_, ?_, ?_, ?_⟩, ⟨?_, ?_, ?_, ?_, ?_⟩, ⟨fun _ => rfl, joined _ _, joined _ _, joined _ _,
    cpu.toNat_getWord_af, rfl, rfl⟩, ?_, ?_⟩
  next =>
    intro reply member
    rw [show (ran writes).1 = _ from congrArg Prod.fst (machine.applyAll_writes writes)] at member
    obtain ⟨write, -, rfl⟩ := List.mem_map.mp member
    rfl
  next => rw [written]; exact finals writes
  next => rw [written]; exact (machine.cpu.status_writeAll writes).1
  next => rw [written]; exact (machine.cpu.status_writeAll writes).2
  next =>
    intro r
    rw [← machine.cpu.getByte_writeAll, ← written]
    rfl
  next =>
    rw [written, flags, ← Option.getD_map Flags.zero, Option.map_map]
    rfl
  next =>
    rw [written, flags, ← Option.getD_map Flags.carry, Option.map_map]
    rfl
  next => rw [written]; exact machine.cpu.sp_writeAll writes
  next => rw [written]; exact machine.cpu.pc_writeAll writes
  next =>
    intro before r value later split apart
    rw [written, split]
    exact machine.cpu.getWord_writeAll before r value apart
  next =>
    intro first second apart
    rw [finals, finals, machine.cpu.writeAll_append_comm apart]

theorem register_views_consistent_booted :
    let machine : Machine Memory := { cpu := .booted, bus := .zero }
    let halves : List RegisterWrite := [.word .bc 0x1234, .byte .c 0xff]
    let others : List RegisterWrite := [.word .af 0xffff, .word .sp 0x8000]
    let final (writes : List RegisterWrite) :=
      (machine.applyAll (writes.map RegisterWrite.command)).2
    let written := final (halves ++ others)
    written.apply (.getByte .b) = (.ok (.byte 0x12), written) ∧
      written.apply (.getByte .c) = (.ok (.byte 0xff), written) ∧
      written.apply (.getByte .e) = (.ok (.byte 0xd8), written) ∧
      written.cpu.flags.zero = true ∧ written.cpu.sp = 0x8000 ∧ written.cpu.pc = 0x0100 ∧
      (∀ write ∈ others.tail, (RegisterWrite.word .af 0xffff).Apart write) ∧
      written.cpu.getWord .af = 0xff90 ∧ (∀ x ∈ halves, ∀ y ∈ others, x.Apart y) ∧
      written = final (others ++ halves) := by
  intro machine halves others final written
  obtain ⟨-, ⟨bytes, zero, -, sp, pc⟩, -, reads, swaps⟩ :=
    machine.register_views_consistent (halves ++ others)
  have kept : ∀ write ∈ others.tail, (RegisterWrite.word .af 0xffff).Apart write := by decide
  have apart : ∀ x ∈ halves, ∀ y ∈ others, x.Apart y := by decide
  exact ⟨bytes .b, bytes .c, bytes .e, zero, sp, pc, kept, reads halves .af 0xffff _ rfl kept,
    apart, swaps halves others apart⟩

end Machine

end Sm83
