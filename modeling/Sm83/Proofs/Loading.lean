import Mathlib.Data.List.Induction
import Sm83.Machine.Command

set_option autoImplicit false

namespace Sm83

variable {β : Type} [Bus β]

def storeBytes : β → UInt16 → List UInt8 → β
  | bus, _, [] => bus
  | bus, address, value :: rest => storeBytes (Bus.write bus address value) (address + 1) rest

theorem storeBytes_append (bus : β) (address : UInt16) (first second : List UInt8) :
    storeBytes bus address (first ++ second) =
      storeBytes (storeBytes bus address first) (address + UInt16.ofNat first.length) second := by
  induction first generalizing bus address with
  | nil => simp [storeBytes]
  | cons value first ih =>
    rw [List.cons_append, storeBytes, ih, storeBytes, List.length_cons, add_ofNat_succ]

theorem Microcode.perform_writeBytes (address : UInt16) (values : List UInt8) (bus : β)
    (log : Log) :
    (writeBytes address values).perform bus log = ⟨.ok (), storeBytes bus address values, log⟩ := by
  induction values generalizing address bus with
  | nil => rfl
  | cons value rest ih => exact ih (address + 1) (Bus.write bus address value)

namespace Machine

variable {address : UInt16} {program : List UInt8}

theorem load_of_fits (machine : Machine β) (fits : address.toNat + program.length ≤ 65536) :
    machine.load address program = (.ok (),
      ⟨machine.cpu, storeBytes machine.bus address program,
        machine.log.record (.loaded program.length address)⟩) := by
  obtain ⟨cpu, bus, log⟩ := machine
  simp [load, perform, loadProgram, fits, Microcode.perform_bind, Microcode.perform_writeBytes,
    Microcode.log, Microcode.perform]

theorem load_of_exceeds (machine : Machine β) (exceeds : 65536 < address.toNat + program.length) :
    machine.load address program = (.error (.programTooLarge address program.length), machine) := by
  obtain ⟨cpu, bus, log⟩ := machine
  simp [load, perform, loadProgram, Nat.not_le.mpr exceeds, Microcode.perform]

theorem apply_load (machine : Machine β) (address : UInt16) (program : List UInt8) :
    machine.apply (.load address program) =
      ((machine.load address program).1.map fun _ => .done, (machine.load address program).2) := by
  obtain ⟨cpu, bus, log⟩ := machine
  simp only [apply, load, perform, Microcode.bind_eq, Microcode.perform_bind]
  rcases (loadProgram address program).perform bus log with ⟨_ | _, _, _⟩
  next => rfl
  next => rfl

end Machine

namespace SerialLink

theorem sent_storeBytes_of_apart (link : SerialLink) {address : UInt16} {values : List UInt8}
    (fits : address.toNat + values.length ≤ 65536)
    (apart : ∀ i < values.length, address.toNat + i ≠ controlRegister.toNat) :
    (storeBytes link address values).sent = link.sent := by
  induction values generalizing link address with
  | nil => rfl
  | cons value rest ih =>
    rw [List.length_cons] at fits apart
    have here : address ≠ controlRegister := by
      rintro rfl
      exact apart 0 (Nat.succ_pos _) rfl
    have unsent : (link.write address value).sent = link.sent := by simp [write, here]
    have next : (address + 1).toNat = (address.toNat + 1) % 65536 := UInt16.toNat_add address 1
    rw [storeBytes, ← unsent]
    refine ih (link.write address value) (by omega) fun i within => ?_
    have later := apart (i + 1) (by omega)
    omega

def sentByLoading (first : UInt8) (address : UInt16) (program : List UInt8) : List UInt8 :=
  let before := controlRegister.toNat - address.toNat
  if address.toNat ≤ controlRegister.toNat ∧ program[before]? = some start then
    [(program.take before).getLastD first]
  else []

theorem read_storeBytes_dataRegister (link : SerialLink) {address : UInt16} {values : List UInt8}
    (reaches : address.toNat + values.length = controlRegister.toNat) :
    (storeBytes link address values).memory.read dataRegister =
      values.getLastD (link.memory.read dataRegister) := by
  cases values using List.reverseRecOn with
  | nil => rfl
  | append_singleton values value =>
    have last : address + UInt16.ofNat values.length = dataRegister := by
      have control : controlRegister.toNat = 0xff02 := rfl
      rw [List.length_append, List.length_singleton] at reaches
      rw [← UInt16.toNat_inj, UInt16.toNat_add, UInt16.toNat_ofNat']
      change _ = 0xff01
      omega
    rw [storeBytes_append, last, List.getLastD_concat]
    exact Memory.read_write_self _ _ _

theorem sent_storeBytes (link : SerialLink) {address : UInt16} {values : List UInt8}
    (fits : address.toNat + values.length ≤ 65536) :
    (storeBytes link address values).sent.toList =
      link.sent.toList ++ sentByLoading (link.memory.read dataRegister) address values := by
  have control : controlRegister.toNat = 0xff02 := rfl
  have above : (controlRegister + 1).toNat = 0xff03 := rfl
  rw [sentByLoading]
  obtain ⟨before, distance⟩ : ∃ before, before = controlRegister.toNat - address.toNat := ⟨_, rfl⟩
  simp only [← distance]
  by_cases reaches : address.toNat ≤ controlRegister.toNat ∧ before < values.length
  next =>
    -- The bytes before the one for the control register, that one, and the bytes after it.
    obtain ⟨below, within⟩ := reaches
    have length : (values.take before).length = before := List.length_take_of_le (by omega)
    have there : address + UInt16.ofNat before = controlRegister := by
      rw [← UInt16.toNat_inj, UInt16.toNat_add, UInt16.toNat_ofNat']
      omega
    have stored : storeBytes link address values =
        storeBytes ((storeBytes link address (values.take before)).write controlRegister
          values[before]) (controlRegister + 1) (values.drop (before + 1)) := by
      conv_lhs => rw [← List.take_append_drop before values, List.drop_eq_getElem_cons within,
        storeBytes_append, length, there, storeBytes]
      rfl
    have earlier : (storeBytes link address (values.take before)).sent = link.sent :=
      sent_storeBytes_of_apart link (by omega) fun i within => by omega
    have last : (storeBytes link address (values.take before)).memory.read dataRegister =
        (values.take before).getLastD (link.memory.read dataRegister) :=
      read_storeBytes_dataRegister link (by omega)
    have later (link : SerialLink) :
        (storeBytes link (controlRegister + 1) (values.drop (before + 1))).sent = link.sent :=
      sent_storeBytes_of_apart link (by rw [List.length_drop]; omega) fun i within => by omega
    rw [stored, later, sent_write, earlier, last]
    simp only [below, List.getElem?_eq_getElem within, Option.some.injEq, true_and]
  next =>
    have apart : ∀ i < values.length, address.toNat + i ≠ controlRegister.toNat := by
      intro i within
      omega
    rw [sent_storeBytes_of_apart link fits apart, if_neg, List.append_nil]
    rintro ⟨below, starts⟩
    exact reaches ⟨below, (List.getElem?_eq_some_iff.mp starts).1⟩

end SerialLink

end Sm83
