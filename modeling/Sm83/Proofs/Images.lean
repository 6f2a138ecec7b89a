import Sm83.Proofs.Loading
import Sm83.Proofs.MultiByte

set_option autoImplicit false

namespace Sm83

def stores (address : UInt16) (values : List UInt8) : List Access :=
  values.mapIdx fun i value => .write (address + UInt16.ofNat i) value

theorem stores_cons (address : UInt16) (value : UInt8) (rest : List UInt8) :
    stores address (value :: rest) = .write address value :: stores (address + 1) rest := by
  simp only [stores, List.mapIdx_cons, add_ofNat_succ]
  simp

section Storing

variable {β : Type} [Bus β]

theorem accesses_storeBytes (recorder : Recorder β) (address : UInt16) (values : List UInt8) :
    (storeBytes recorder address values).accesses.toList =
      recorder.accesses.toList ++ stores address values := by
  induction values generalizing recorder address with
  | nil => simp [storeBytes, stores]
  | cons value rest ih =>
    rw [storeBytes, ih, Recorder.accesses_write, stores_cons, List.append_assoc]
    rfl

end Storing

namespace Memory

variable {address place : UInt16} {values : List UInt8}

theorem read_storeBytes_of_not_within (memory : Memory)
    (outside : ¬ Within address values.length place) :
    (storeBytes memory address values).read place = memory.read place := by
  induction values generalizing memory address with
  | nil => rfl
  | cons value rest ih =>
    have elsewhere : place ≠ address := fun same => outside (same ▸ .head _ _)
    rw [storeBytes, ih _ fun within => outside within.next]
    exact (read_write ..).trans (if_neg elsewhere)

-- No byte of an image that fits into memory at all is overwritten by a later one.
theorem read_storeBytes (memory : Memory) (few : values.length ≤ 65536) {i : Nat}
    (within : i < values.length) :
    (storeBytes memory address values).read (address + UInt16.ofNat i) = values[i] := by
  induction values generalizing memory address i with
  | nil => cases within
  | cons value rest ih =>
    rw [List.length_cons] at few within
    cases i with
    | zero =>
      have once : ¬ Within (address + 1) rest.length address := fun again =>
        again.ne_start (by omega) rfl
      have start : address + UInt16.ofNat 0 = address := UInt16.add_zero address
      rw [start, storeBytes, read_storeBytes_of_not_within _ once]
      exact read_write_self _ _ _
    | succ i =>
      rw [add_ofNat_succ, storeBytes, ih _ (by omega) (by omega), List.getElem_cons_succ]

end Memory

namespace Machine

variable {β : Type} [Bus β] {address : UInt16} {program : List UInt8}

theorem load_succeeds_iff (machine : Machine β) (address : UInt16) (program : List UInt8) :
    (machine.load address program).1 = .ok () ↔ address.toNat + program.length ≤ 65536 := by
  by_cases fits : address.toNat + program.length ≤ 65536
  next => simp [load_of_fits machine fits, fits]
  next => simp [load_of_exceeds machine (Nat.lt_of_not_le fits), fits]

theorem load_fails_iff (machine : Machine β) (address : UInt16) (program : List UInt8) :
    (∃ fault, (machine.load address program).1 = .error fault) ↔
      65536 < address.toNat + program.length := by
  by_cases fits : address.toNat + program.length ≤ 65536
  next => simp [load_of_fits machine fits, fits]
  next =>
    have exceeds := Nat.lt_of_not_le fits
    simp [load_of_exceeds machine exceeds, exceeds]

-- Two pieces that meet are as good as one, but for the log, which has a line for each.
theorem load_append (machine : Machine β) {first : List UInt8}
    (meets : address.toNat + first.length ≤ 65535) (second : List UInt8) :
    let whole := machine.load address (first ++ second)
    let upper := (machine.load address first).2.load (address + UInt16.ofNat first.length) second
    (whole.1 = .ok () ↔ upper.1 = .ok ()) ∧
      (whole.1 = .ok () → upper.2.bus = whole.2.bus ∧ upper.2.cpu = whole.2.cpu) := by
  have there : (address + UInt16.ofNat first.length).toNat = address.toNat + first.length := by
    rw [UInt16.toNat_add, UInt16.toNat_ofNat']
    omega
  intro whole upper
  have fits : address.toNat + (first ++ second).length ≤ 65536 ↔
      (address + UInt16.ofNat first.length).toNat + second.length ≤ 65536 := by
    rw [there, List.length_append, Nat.add_assoc]
  refine ⟨?_, fun loads => ?_⟩
  next => rw [load_succeeds_iff, load_succeeds_iff, fits]
  next =>
    have all := (load_succeeds_iff _ _ _).mp loads
    have begun : address.toNat + first.length ≤ 65536 := by omega
    simp only [whole, upper, load_of_fits _ all, load_of_fits _ (fits.mp all),
      load_of_fits _ begun, storeBytes_append, and_self]

/-- A load fails exactly when the program would pass the top of memory, and then nothing has
happened. Otherwise each byte has been written once, in ascending order and without going around
at the top, and that is all. Loading the rest of a program after its beginning is loading it all. -/
theorem load_all_or_nothing (machine : Machine (Recorder β)) (flat : Machine Memory)
    (address : UInt16) (program : List UInt8) :
    let recorded := machine.load address program
    let loaded := flat.load address program
    (((∃ fault, recorded.1 = .error fault) ↔ 65536 < address.toNat + program.length) ∧
      (∀ fault, recorded.1 = .error fault →
        fault = .programTooLarge address program.length ∧ recorded.2 = machine) ∧
      (recorded.1 = .ok () →
        recorded.2.bus.accesses.toList = machine.bus.accesses.toList ++ stores address program ∧
          (∀ i < program.length, (address + UInt16.ofNat i).toNat = address.toNat + i) ∧
          recorded.2.cpu = machine.cpu)) ∧
    (loaded.1 = recorded.1 ∧
      (loaded.1 = .ok () →
        (∀ (i : Nat) (within : i < program.length),
            loaded.2.bus.read (address + UInt16.ofNat i) = program[i]) ∧
          (∀ place, ¬ Within address program.length place →
            loaded.2.bus.read place = flat.bus.read place) ∧
          loaded.2.cpu = flat.cpu)) ∧
    ∀ rest : List UInt8, address.toNat + program.length ≤ 65535 →
      let whole := flat.load address (program ++ rest)
      let continued := loaded.2.load (address + UInt16.ofNat program.length) rest
      (whole.1 = .ok () ↔ loaded.1 = .ok () ∧ continued.1 = .ok ()) ∧
        (whole.1 = .ok () → continued.2.bus = whole.2.bus ∧ continued.2.cpu = whole.2.cpu) := by
  intro recorded loaded
  refine ⟨⟨load_fails_iff machine address program, ?_, ?_⟩, ⟨?_, ?_⟩, fun rest meets => ?_⟩
  next =>
    intro fault fails
    have exceeds := (load_fails_iff machine address program).mp ⟨fault, fails⟩
    simp only [recorded, load_of_exceeds machine exceeds, Except.error.injEq] at fails ⊢
    exact ⟨fails.symm, trivial⟩
  next =>
    intro loads
    have fits := (load_succeeds_iff _ _ _).mp loads
    refine ⟨?_, fun i within => ?_, ?_⟩
    next =>
      simp only [recorded, load_of_fits machine fits]
      exact accesses_storeBytes machine.bus address program
    next =>
      rw [UInt16.toNat_add, UInt16.toNat_ofNat']
      omega
    next => simp only [recorded, load_of_fits machine fits]
  next =>
    by_cases fits : address.toNat + program.length ≤ 65536
    next => simp only [loaded, recorded, load_of_fits _ fits]
    next => simp only [loaded, recorded, load_of_exceeds _ (Nat.lt_of_not_le fits)]
  next =>
    intro loads
    have fits := (load_succeeds_iff _ _ _).mp loads
    simp only [loaded, load_of_fits flat fits]
    exact ⟨fun i => Memory.read_storeBytes flat.bus (by omega),
      fun place => Memory.read_storeBytes_of_not_within flat.bus, trivial⟩
  next =>
    have loads : loaded.1 = .ok () := (load_succeeds_iff _ _ _).mpr (by omega)
    have pieces := load_append flat meets rest
    exact ⟨by rw [and_iff_right loads, pieces.1], pieces.2⟩

-- Three bytes that end at the top of memory, the first one before the other two; a fourth one has
-- no place.
theorem load_all_or_nothing_reaching_top :
    let machine : Machine (Recorder Memory) := { bus := { bus := .zero } }
    let flat : Machine Memory := { bus := .zero }
    let first := flat.load 0xfffd [0x3e]
    let whole := flat.load 0xfffd [0x3e, 0x01, 0x76]
    let continued := first.2.load 0xfffe [0x01, 0x76]
    whole.1 = .ok () ∧ first.1 = .ok () ∧ continued.1 = .ok () ∧
      continued.2.bus = whole.2.bus ∧ whole.2.bus.read 0xffff = 0x76 ∧ whole.2.bus.read 0 = 0 ∧
      (machine.load 0xfffd [0x3e, 0x01, 0x76]).2.bus.accesses.toList =
        [.write 0xfffd 0x3e, .write 0xfffe 0x01, .write 0xffff 0x76] ∧
      (machine.load 0xfffd [0x3e, 0x01, 0x76, 0x00]).1 = .error (.programTooLarge 0xfffd 4) ∧
      (machine.load 0xfffd [0x3e, 0x01, 0x76, 0x00]).2 = machine := by
  intro machine flat first whole continued
  have all := load_all_or_nothing machine flat 0xfffd [0x3e, 0x01, 0x76]
  have pieces := (load_all_or_nothing machine flat 0xfffd [0x3e]).2.2 [0x01, 0x76] (by decide)
  have exceeding := (load_all_or_nothing machine flat 0xfffd [0x3e, 0x01, 0x76, 0x00]).1
  have loads : whole.1 = .ok () := (load_succeeds_iff _ _ _).mpr (by decide)
  obtain ⟨begun, continues⟩ := pieces.1.mp loads
  have recorded := all.1.2.2 (all.2.1.1.symm.trans loads)
  obtain ⟨stored, kept, -⟩ := all.2.1.2 loads
  have outside : ¬ Within 0xfffd 3 0 := by
    rintro ⟨i, below, same⟩
    interval_cases i <;> revert same <;> decide
  obtain ⟨fault, fails⟩ := exceeding.1.mpr (by decide)
  obtain ⟨rfl, unchanged⟩ := exceeding.2.1 fault fails
  exact ⟨loads, begun, continues, (pieces.2 loads).1, stored 2 (by decide),
    (kept 0 outside).trans (Memory.read_zero 0), recorded.1, fails, unchanged⟩

end Machine

end Sm83
